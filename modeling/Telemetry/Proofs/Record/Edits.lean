import Telemetry.Proofs.Encoder.TimeColumn
import Telemetry.Proofs.Record.Decoding

namespace Telemetry

/-!
# Records under edits

Whatever is done to a record, a name stands in it once, and what is found under a name is what
was written last under it.

* `Record.Edit` — what can be done to a record; `Record.run` — edits one after the other.
* `Record.written` — what was written since the record was last replaced, in order.
* `Record.Tells` — lookup tells the last write; each edit keeps this (`Record.Tells.apply`).
* `Record.tells_run` — so it holds after any edits.
* `Record.get?_run` — what is found, and where a field stands that is set next.
-/

/-- The fields that a value has: the entries of a map whose keys are all texts. -/
def Value.fields? : Value → Option (List (String × Value))
  | .map entries => entries.mapM fun e => e.1.text?.map fun name => (name, e.2)
  | _ => none

namespace Record

open Value (entryOf)

/-- A map has fields if all its keys are texts. -/
theorem fields?_map_eq_some_iff {entries : List (Value × Value)} {fields : List (String × Value)} :
    (Value.map entries).fields? = some fields ↔ entries = fields.map (entryOf id) := by
  show entries.mapM (fun e => e.1.text?.map fun name => (name, e.2)) = some fields ↔ _
  induction entries generalizing fields with
  | nil => cases fields <;> simp
  | cons e entries ih =>
    obtain ⟨k, v⟩ := e
    rw [List.mapM_cons, Option.bind_eq_bind, Option.bind_eq_some_iff]
    simp only [Option.bind_eq_bind, Option.bind_eq_some_iff, Option.pure_def, Option.some.injEq, ih]
    cases k with
    | text name =>
      constructor
      · rintro ⟨f, hf, others, rfl, rfl⟩
        obtain rfl : (name, v) = f := Option.some.inj hf
        rfl
      · intro h
        cases fields with
        | nil => cases h
        | cons f fields =>
          obtain ⟨hf, hfields⟩ := List.cons.inj h
          cases hf
          exact ⟨f, rfl, fields, hfields, rfl⟩
    | null | bool | int | uint | float | time | bytes | array | map =>
      cases fields <;> simp [Value.text?, entryOf]

/-- A value that has fields is the record of these fields, and no other value is a record. -/
theorem ofValue_eq_ok_iff_fields? {v : Value} {r : Record} :
    ofValue v = .ok r ↔ ∃ fields, v.fields? = some fields ∧ r = ofFields fields := by
  rw [ofValue_eq_ok_iff]
  refine exists_congr fun fields => and_congr_left fun _ => ?_
  cases v with
  | map entries => rw [fields?_map_eq_some_iff, Value.map.injEq]
  | null | bool | int | uint | float | time | text | bytes | array => simp [Value.fields?]

/-! ### Edits -/

/-- What can be done to a record. -/
inductive Edit where
  /-- begins with no field, whatever room is reserved -/
  | new
  /-- sets a field where it stands, or else last; so does a builder -/
  | insert (name : String) (value : Value)
  /-- sets a field and moves it to the end -/
  | pushLast (name : String) (value : Value)
  /-- begins with any fields, a list of them or one after the other -/
  | ofFields (fields : List (String × Value))
  /-- begins with the fields of a value; one that is no record is refused -/
  | ofValue (v : Value)
  /-- makes the record ready to be sent by an encoder -/
  | prepare (e : Encoder) (eventTime clock : Instant)

/-- The record after an edit. -/
def Edit.apply (r : Record) : Edit → Record
  | new => empty
  | insert name value => r.insert name value
  | pushLast name value => r.pushLast name value
  | ofFields fields => Record.ofFields fields
  | ofValue v =>
    match Record.ofValue v with
    | .ok s => s
    | .error _ => r
  | prepare e eventTime clock => e.prepare r eventTime clock

/-- What has been written since the record was last replaced, after `log` before the edit. -/
def Edit.write (log : List (String × Value)) : Edit → List (String × Value)
  | new => []
  | insert name value | pushLast name value => log ++ [(name, value)]
  | ofFields fields => fields
  | ofValue v => v.fields?.getD log
  | prepare e eventTime clock =>
    match e.timeField with
    | some name => log ++ [(name, .time (e.emissionTime eventTime clock))]
    | none => log

/-- The record that edits make, one after the other. -/
def run (edits : List Edit) : Record := edits.foldl Edit.apply empty

/-- What edits have written since they last replaced the record, in order. -/
def written (edits : List Edit) : List (String × Value) := edits.foldl Edit.write []

/-- What is found under a name is what was written last under it. -/
def Tells (r : Record) (log : List (String × Value)) : Prop :=
  ∀ name, r.get? name = log.reverse.lookup name

/-- Nothing is found where nothing was written. -/
theorem tells_empty : empty.Tells [] := fun _ => rfl

/-- A record made of fields tells the last value of each name. -/
theorem tells_ofFields (fields : List (String × Value)) : (ofFields fields).Tells fields :=
  get?_ofFields fields

/-- One more field set, wherever it is put. -/
theorem Tells.sets {r s : Record} {log : List (String × Value)} {name : String} {value : Value}
    (h : r.Tells log) (hs : r.Sets name value s) : s.Tells (log ++ [(name, value)]) := by
  intro other
  rw [hs.get?_eq, Json.lookup_reverse_append_singleton, h other]

/-- **Each edit keeps it.** -/
theorem Tells.apply {r : Record} {log : List (String × Value)} (h : r.Tells log) (edit : Edit) :
    (edit.apply r).Tells (edit.write log) := by
  cases edit with
  | new => exact tells_empty
  | insert name value => exact h.sets (sets_insert r name value)
  | pushLast name value => exact h.sets (sets_pushLast r name value)
  | ofFields fields => exact tells_ofFields fields
  | ofValue v =>
    show (match Record.ofValue v with | .ok s => s | .error _ => r).Tells (v.fields?.getD log)
    cases hfields : v.fields? with
    | some fields =>
      rw [ofValue_eq_ok_iff_fields?.2 ⟨fields, hfields, rfl⟩]
      exact tells_ofFields fields
    | none =>
      -- A value without fields is refused, and the record stays.
      cases hrecord : Record.ofValue v with
      | ok s =>
        obtain ⟨fields, hsome, -⟩ := ofValue_eq_ok_iff_fields?.1 hrecord
        rw [hfields] at hsome
        cases hsome
      | error => exact h
  | prepare e eventTime clock =>
    rw [Edit.apply, Edit.write]
    cases hfield : e.timeField with
    | none =>
      rw [Encoder.prepare_of_none hfield]
      exact h
    | some name =>
      rw [Encoder.prepare_of_timeField hfield]
      exact h.sets (sets_pushLast r name _)

/-- A record tells what its edits have written. -/
theorem tells_run (edits : List Edit) : (run edits).Tells (written edits) := by
  -- Edits are folded from the left, so the step is the last edit.
  induction edits using List.reverseRecOn with
  | nil => exact tells_empty
  | append_singleton edits edit ih =>
    rw [run, written, List.foldl_append, List.foldl_append]
    exact ih.apply edit

/-- **What a record holds, after any edits.** A name stands in it once, and what is found under a
    name is what was written last under it since the record was last replaced, or nothing.

    A field that is inserted goes over the one of its name, which keeps its place as all others
    do, or else at the end.  A field that is pushed goes last, and the fields of other names keep
    their order. -/
theorem get?_run (edits : List Edit) :
    let r := run edits
    r.names.Nodup ∧
    (∀ name, r.get? name = (written edits).reverse.lookup name) ∧
    (∀ name value, name ∈ r.names → ∀ i : Nat, (r.insert name value).fields[i]? =
      r.fields[i]?.map fun f => if f.1 = name then (name, value) else f) ∧
    (∀ name value, name ∉ r.names → (r.insert name value).fields = r.fields ++ [(name, value)]) ∧
    ∀ name value, ∃ kept, (r.pushLast name value).fields = kept ++ [(name, value)] ∧
      kept.Sublist r.fields ∧ ∀ f, f ∈ kept ↔ f ∈ r.fields ∧ f.1 ≠ name := by
  intro r
  refine ⟨r.nodup, tells_run edits, ?_, ?_, ?_⟩
  · intro name value hname
    exact getElem?_insert_of_mem hname value
  · intro name value hname
    exact fields_insert_of_notMem hname value
  · intro name value
    refine ⟨_, rfl, List.filter_sublist, fun f => ?_⟩
    simp

/-- A field that was pushed, one that is inserted in front of it, and a new one. -/
theorem get?_run_pushed :
    let edits : List Edit :=
      [.insert "a" .null, .insert "b" .null, .ofValue .null, .pushLast "a" (.bool true)]
    let r := run edits
    r.fields = [("b", .null), ("a", .bool true)] ∧ r.get? "a" = some (.bool true) ∧
      "b" ∈ r.names ∧ (r.insert "b" (.text "x")).fields[0]? = some ("b", .text "x") ∧
      "c" ∉ r.names ∧ (r.insert "c" .null).fields = r.fields ++ [("c", .null)] := by
  intro edits r
  obtain ⟨-, hget, hpresent, hnew, -⟩ := get?_run edits
  have hb : "b" ∈ r.names := by decide
  have hc : "c" ∉ r.names := by decide
  exact ⟨rfl, hget "a", hb, hpresent "b" (.text "x") hb 0, hc, hnew "c" .null hc⟩

end Record

end Telemetry
