import Telemetry.Proofs.Encoder.Line
import Telemetry.Proofs.Record.Lookup

namespace Telemetry

/-!
# The time column

The position of the time column is not handed from one step to the next: it is put into the
record as the last field, and found there again when the record is encoded.  Both agree.

* `Encoder.emissionTime`, `Encoder.fields_prepare` — what is put in, and where.
* `Encoder.prepare_prepare` — a record that is prepared again holds the later time alone.
* `Encoder.timeIndex_eq_some_iff` — which records have a time column.
* `Encoder.Shows`, `Encoder.shows_encode_iff` — what a receiver reads in a line.
* `Encoder.HasIndex`, `Encoder.hasIndex_encode_iff` — which lines have such a position.
* `Encoder.shows_prepare` — injection and detection side by side.
-/

open Json (Document Reads)

/-! ### Records -/

/-- Setting a last field again changes its value only. -/
theorem Record.pushLast_pushLast (r : Record) (name : String) (v w : Value) :
    (r.pushLast name v).pushLast name w = r.pushLast name w := by
  apply Record.ext_fields
  simp [Record.pushLast, List.filter_append]

/-- A field that is pushed adds one at most. -/
theorem Record.size_pushLast_le (r : Record) (name : String) (v : Value) :
    (r.pushLast name v).size ≤ r.size + 1 := by
  have hkept := List.length_filter_le (fun f : String × Value => f.1 != name) r.fields
  simp only [Record.size, Record.pushLast, List.length_append, List.length_singleton]
  omega

/-- After few calls the id of a schema is small. -/
theorem Registry.id_schema_le (calls : List SchemaCall) (r : Record) (timeIndex : Option Nat) :
    ((Registry.empty.run calls).2.schema r timeIndex).1.id ≤ calls.length + 1 := by
  have hentry := ((Registry.tracks_run calls).2.schema ⟨r, timeIndex⟩).1
  simp only at hentry
  rw [hentry]
  -- The id counts distinct signatures among the calls and this one.
  refine (List.toFinset_card_le _).trans ((List.length_take_le' _ _).trans ?_)
  simp

/-- The pair of name and type for each field, as a descriptor has them. -/
def Descriptor.pairs (r : Record) : List Document :=
  r.fields.map fun f => .array [.text f.1, .text (WireType.of f.2).name]

namespace Encoder

/-- What the cells of a record stand for, in the order of the fields. -/
def cells (e : Encoder) (r : Record) : List Document :=
  r.values.map (Value.cellDocument e.mapsAsJson)

/-! ### What is put in -/

/-- The time that is put into a record: the event's own, or that of the clock. -/
def emissionTime (e : Encoder) (eventTime clock : Instant) : Instant :=
  if e.useSourceTime then eventTime else clock

/-- With a time field, a record is prepared by setting it last. -/
theorem prepare_of_timeField {e : Encoder} {f : String} (h : e.timeField = some f) (r : Record)
    (eventTime clock : Instant) :
    e.prepare r eventTime clock = r.pushLast f (.time (e.emissionTime eventTime clock)) := by
  rw [prepare, h]
  rfl

/-- Without a time field there is nothing to prepare. -/
theorem prepare_of_none {e : Encoder} (h : e.timeField = none) (r : Record)
    (eventTime clock : Instant) : e.prepare r eventTime clock = r := by
  rw [prepare, h]

/-- **The time goes last**, after the fields of other names. -/
theorem fields_prepare {e : Encoder} {f : String} (h : e.timeField = some f) (r : Record)
    (eventTime clock : Instant) : (e.prepare r eventTime clock).fields =
      r.fields.filter (·.1 != f) ++ [(f, .time (e.emissionTime eventTime clock))] := by
  rw [prepare_of_timeField h]
  rfl

/-- The time stands at the last position. -/
theorem getElem?_prepare {e : Encoder} {f : String} (h : e.timeField = some f) (r : Record)
    (eventTime clock : Instant) :
    (e.prepare r eventTime clock).fields[(e.prepare r eventTime clock).size - 1]? =
      some (f, .time (e.emissionTime eventTime clock)) := by
  rw [Record.size, ← List.getLast?_eq_getElem?, fields_prepare h, List.getLast?_append]
  rfl

/-- **Preparing again** is as if the record had not been prepared before. -/
theorem prepare_prepare (e : Encoder) (r : Record) (eventTime clock eventTime' clock' : Instant) :
    e.prepare (e.prepare r eventTime clock) eventTime' clock' = e.prepare r eventTime' clock' := by
  cases h : e.timeField with
  | none => rw [prepare_of_none h r]
  | some f =>
    simp only [prepare_of_timeField h]
    exact Record.pushLast_pushLast r f _ _

/-! ### What is found -/

/-- **A time column is found** exactly where the last field has the chosen name and holds an
    instant. -/
theorem timeIndex_eq_some_iff {e : Encoder} {r : Record} {i : Nat} :
    e.timeIndex r = some i ↔
      (∃ f t, e.timeField = some f ∧ r.fields.getLast? = some (f, .time t)) ∧ i = r.size - 1 := by
  unfold timeIndex
  split
  · rename_i name last t hfield hlast
    by_cases hname : last = name
    · subst hname
      simp [hfield, hlast, eq_comm]
    · simp [hfield, hlast, hname]
  · rename_i hno
    constructor
    · intro h
      cases h
    · rintro ⟨⟨f, t, hfield, hlast⟩, -⟩
      exact absurd hlast (hno f f t hfield)

theorem timeIndex_of_none {e : Encoder} (h : e.timeField = none) (r : Record) :
    e.timeIndex r = none := by
  rw [timeIndex, h]

/-- A prepared record has its time column last. -/
theorem timeIndex_prepare {e : Encoder} {f : String} (h : e.timeField = some f) (r : Record)
    (eventTime clock : Instant) : e.timeIndex (e.prepare r eventTime clock) =
      some ((e.prepare r eventTime clock).size - 1) := by
  refine timeIndex_eq_some_iff.2 ⟨⟨f, e.emissionTime eventTime clock, h, ?_⟩, rfl⟩
  rw [List.getLast?_eq_getElem?]
  exact getElem?_prepare h r eventTime clock

/-! ### What a receiver reads -/

/-- What a receiver reads in a line: the elements of the descriptor, and the cells. -/
def Shows (line : String) (descriptor cells : List Document) : Prop :=
  ∃ id, Document.ofText? ("[" ++ line ++ "]").toList =
    some (.array [id, .array descriptor, .array cells])

/-- The descriptor in the line begins with a number. -/
def HasIndex (line : String) : Prop :=
  ∃ n pairs cells, Shows line (.number n :: pairs) cells

variable {e : Encoder} {calls : List SchemaCall} {r : Record}

/-- **A line shows** the position of the time column, if there is one, a pair for each field, and
    what each cell stands for, and nothing else. -/
theorem shows_encode_iff (hcalls : calls.length + 1 < 0x10000000000000000)
    (hsize : r.size ≤ 0x10000000000000000) {descriptor cells : List Document} :
    Shows (e.encode (Registry.empty.run calls).2 r).1 descriptor cells ↔
      descriptor = (e.timeIndex r).toList.map .word ++ Descriptor.pairs r ∧
        cells = e.cells r := by
  have hid := Nat.lt_of_le_of_lt (Registry.id_schema_le calls r (e.timeIndex r)) hcalls
  -- The reader nests up to 127 deep, and a line takes three levels.
  have hdescriptor : Reads (124 + 2)
      ((Registry.empty.run calls).2.schema r (e.timeIndex r)).1.descriptor.toList
      (Descriptor.document r (e.timeIndex r)) := by
    rw [schema_descriptor, Descriptor.text, String.toList_ofList]
    exact Descriptor.reads_chars 124 r fun i hi => Nat.lt_of_lt_of_le (timeIndex_lt hi) hsize
  have hcells : ∀ p ∈ r.values.map fun v =>
      (v.cellChars e.mapsAsJson, v.cellDocument e.mapsAsJson), Reads (124 + 1) p.1 p.2 :=
    List.forall_mem_map.2 fun v _ => Value.reads_cellChars 124 e.mapsAsJson v
  have hread : Document.ofText?
      ("[" ++ (e.encode (Registry.empty.run calls).2 r).1 ++ "]").toList =
        some (.array [.word ((Registry.empty.run calls).2.schema r (e.timeIndex r)).1.id,
          Descriptor.document r (e.timeIndex r),
          .array (e.cells r)]) := by
    have hline := (reads_lineChars hid hdescriptor hcells).ofText?
    simp only [List.map_map, Function.comp_def] at hline
    simpa [encode, Encoder.cells] using hline
  simp only [Shows, hread, Descriptor.document, Descriptor.pairs, Option.some.injEq,
    Document.array.injEq, List.cons.injEq, and_true, exists_eq_left']
  rw [eq_comm, @eq_comm _ cells]

/-- **The position is written** exactly where the last field has the chosen name and holds an
    instant. -/
theorem hasIndex_encode_iff (hcalls : calls.length + 1 < 0x10000000000000000)
    (hsize : r.size ≤ 0x10000000000000000) :
    HasIndex (e.encode (Registry.empty.run calls).2 r).1 ↔
      ∃ f t, e.timeField = some f ∧ r.fields.getLast? = some (f, .time t) := by
  constructor
  · rintro ⟨n, pairs, cells, h⟩
    have hdescriptor := ((shows_encode_iff hcalls hsize).1 h).1
    cases htime : e.timeIndex r with
    | none =>
      -- Without the position the descriptor is made of pairs.
      rw [htime] at hdescriptor
      cases hfields : r.fields <;> simp [Descriptor.pairs, hfields] at hdescriptor
    | some i => exact (timeIndex_eq_some_iff.1 htime).1
  · intro h
    have htime := timeIndex_eq_some_iff.2 ⟨h, rfl⟩
    refine ⟨.ofUInt64 (.ofNat (r.size - 1)), Descriptor.pairs r, e.cells r,
      (shows_encode_iff hcalls hsize).2 ⟨?_, rfl⟩⟩
    rw [htime]
    rfl

/-- **Injection and detection agree**, after any calls on the registry.

    With a field name, a prepared record has the fields of other names in their order and the time
    last; preparing it again is as if it had not been prepared before; and its line shows the
    position of the last field in front of the pairs and the cells, and there stand the name with
    the type of times, and the seconds and nanoseconds of the time.

    The line of any record is read with its cells, and it has the position of a time column only
    if there is a field name, and the last field of the record has it and holds an instant.
    Without a field name a record stays as it is, and its line shows the pairs alone.

    Ids and positions are words of 64 bits, so calls and fields are fewer than these can count. -/
theorem shows_prepare (e : Encoder) {calls : List SchemaCall}
    (hcalls : calls.length + 1 < 0x10000000000000000) :
    let g := (Registry.empty.run calls).2
    (∀ f, e.timeField = some f → ∀ (r : Record) (eventTime clock : Instant),
      let t := e.emissionTime eventTime clock
      let p := e.prepare r eventTime clock
      p.fields = r.fields.filter (·.1 != f) ++ [(f, .time t)] ∧
      (∀ eventTime' clock', e.prepare p eventTime' clock' = e.prepare r eventTime' clock') ∧
      (r.size < 0x10000000000000000 →
        Shows (e.encode g p).1 (.word (p.size - 1) :: Descriptor.pairs p) (e.cells p)) ∧
      (Descriptor.pairs p)[p.size - 1]? = some (.array [.text f, .text "FT_TIME"]) ∧
      (e.cells p)[p.size - 1]? = some (Value.timeDocument t)) ∧
    (∀ r : Record, r.size ≤ 0x10000000000000000 →
      (∃ descriptor, Shows (e.encode g r).1 descriptor (e.cells r)) ∧
      (HasIndex (e.encode g r).1 ↔
        ∃ f t, e.timeField = some f ∧ r.fields.getLast? = some (f, .time t))) ∧
    (e.timeField = none → ∀ r : Record,
      (∀ eventTime clock, e.prepare r eventTime clock = r) ∧
      (r.size ≤ 0x10000000000000000 →
        Shows (e.encode g r).1 (Descriptor.pairs r) (e.cells r) ∧
        ¬HasIndex (e.encode g r).1)) := by
  intro g
  refine ⟨?_, ?_, ?_⟩
  · intro f hf r eventTime clock t p
    have hfields : p.fields = r.fields.filter (·.1 != f) ++ [(f, .time t)] :=
      fields_prepare hf r eventTime clock
    have hlast : p.fields[p.size - 1]? = some (f, .time t) := getElem?_prepare hf r eventTime clock
    refine ⟨hfields, prepare_prepare e r eventTime clock, ?_, ?_, ?_⟩
    · intro hsize
      -- Preparing adds one field at most, so its position is a word.
      have hle := Record.size_pushLast_le r f (.time t)
      rw [← prepare_of_timeField hf r eventTime clock] at hle
      refine (shows_encode_iff hcalls (hle.trans hsize)).2 ⟨?_, rfl⟩
      rw [timeIndex_prepare hf r eventTime clock]
      rfl
    · rw [Descriptor.pairs, List.getElem?_map, hlast]
      rfl
    · rw [cells, Record.values, List.map_map, List.getElem?_map, hlast]
      rfl
  · intro r hsize
    exact ⟨⟨_, (shows_encode_iff hcalls hsize).2 ⟨rfl, rfl⟩⟩, hasIndex_encode_iff hcalls hsize⟩
  · intro hnone r
    refine ⟨prepare_of_none hnone r, fun hsize => ⟨?_, fun hindex => ?_⟩⟩
    · refine (shows_encode_iff hcalls hsize).2 ⟨?_, rfl⟩
      rw [timeIndex_of_none hnone]
      rfl
    · obtain ⟨f, t, hf, -⟩ := (hasIndex_encode_iff hcalls hsize).1 hindex
      rw [hnone] at hf
      cases hf

/-- A text of the chosen name in the middle gives way to the time, in a registry that has seen the
    record before. -/
theorem shows_prepare_moved :
    let e : Encoder := ⟨some "at", false, recordSizeCeiling, false, .empty⟩
    let r : Record := ⟨[("a", .null), ("at", .text "now"), ("b", .bool true)], by decide⟩
    let g := (Registry.empty.run [⟨r, none⟩]).2
    let clock : Instant := ⟨7, 5, by decide⟩
    [SchemaCall.mk r none].length + 1 < 0x10000000000000000 ∧
      (e.prepare r .epoch clock).fields = [("a", .null), ("b", .bool true), ("at", .time clock)] ∧
      Shows (e.encode g (e.prepare r .epoch clock)).1
        [.word 2, .array [.text "a", .text "FT_STRING"], .array [.text "b", .text "FT_BOOL"],
          .array [.text "at", .text "FT_TIME"]]
        [.text "null", .bool true, Value.timeDocument clock] ∧
      ¬HasIndex (e.encode g r).1 := by
  intro e r g clock
  have hcalls : [SchemaCall.mk r none].length + 1 < 0x10000000000000000 := by decide
  have hsize : r.size < 0x10000000000000000 := by decide
  obtain ⟨hprepare, hindex, -⟩ := shows_prepare e hcalls
  obtain ⟨hfields, -, hshows, -, -⟩ := hprepare "at" rfl r .epoch clock
  refine ⟨hcalls, hfields, hshows hsize, fun h => ?_⟩
  -- The last field of the record itself is no time.
  obtain ⟨f, t, -, hlast⟩ := (hindex r hsize.le).2.1 h
  cases hlast

end Encoder

end Telemetry
