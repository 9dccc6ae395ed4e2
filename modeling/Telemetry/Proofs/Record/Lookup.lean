import Telemetry.Proofs.Record.Fields

namespace Telemetry.Record

/-!
# What a record holds under a name

A name stands in a record once, so that the first field found is the only one.  Setting a field
changes what is found under its own name and under no other, wherever the field is put.

* `get?_eq_some_iff` — what is found is what stands in the record.
* `Sets`, `Sets.get?_eq` — one field set, be it inserted or pushed.
* `getElem?_insert_of_mem`, `fields_insert_of_notMem` — where an inserted field stands.
* `get?_foldl_insert` — fields inserted one after the other: the last one of a name is found.
* `ofFields_eq_foldl_insert` — a record made in one pass is the one made field by field.
-/

/-- Records with the same fields are the same. -/
theorem ext_fields {r s : Record} (h : r.fields = s.fields) : r = s := by
  cases r
  cases s
  cases h
  rfl

/-! ### Lookup -/

/-- **What is found under a name** stands in the record, and conversely. -/
theorem get?_eq_some_iff {r : Record} {name : String} {value : Value} :
    r.get? name = some value ↔ (name, value) ∈ r.fields := by
  obtain ⟨fields, hnodup⟩ := r
  show (fields.find? (·.1 == name)).map Prod.snd = some value ↔ (name, value) ∈ fields
  induction fields with
  | nil => simp
  | cons f fields ih =>
    rw [List.map_cons, List.nodup_cons] at hnodup
    rw [List.find?_cons, List.mem_cons]
    by_cases hf : f.1 = name
    · -- No later field has the name of the first one.
      have hlater : (name, value) ∉ fields := by
        intro hmem
        refine hnodup.1 ?_
        rw [hf]
        exact List.mem_map_of_mem hmem
      obtain ⟨other, v⟩ := f
      subst hf
      simp [hlater, eq_comm]
    · -- The first field has another name.
      have hne : (name, value) ≠ f := by
        rintro rfl
        exact hf rfl
      rw [beq_false_of_ne hf]
      simp only [hne, false_or]
      exact ih hnodup.2

/-! ### One field set -/

/-- The fields of `s` are those of `r`, but that the value stands under the name. -/
def Sets (r : Record) (name : String) (value : Value) (s : Record) : Prop :=
  ∀ f, f ∈ s.fields ↔ f = (name, value) ∨ f ∈ r.fields ∧ f.1 ≠ name

/-- **A field that is set is found**, and under every other name what was found before. -/
theorem Sets.get?_eq {r s : Record} {name : String} {value : Value} (h : r.Sets name value s)
    (other : String) : s.get? other = if other = name then some value else r.get? other := by
  apply Option.ext
  intro v
  rw [get?_eq_some_iff, h]
  by_cases hother : other = name
  · subst hother
    simp [eq_comm]
  · simp [hother, get?_eq_some_iff]

/-- Inserting a field sets a member. -/
theorem fields_insert (r : Record) (name : String) (value : Value) :
    (r.insert name value).fields = Json.put r.fields name value := by
  unfold insert
  split
  · rename_i hname
    rw [Json.put_of_mem hname]
    apply List.map_congr_left
    intro f _
    by_cases hf : f.1 = name <;> simp [hf]
  · rename_i hname
    rw [Json.put_of_notMem hname]

/-- Inserting sets the field, wherever it stood. -/
theorem sets_insert (r : Record) (name : String) (value : Value) :
    r.Sets name value (r.insert name value) := by
  intro f
  rw [fields_insert]
  exact Json.mem_put

theorem sets_pushLast (r : Record) (name : String) (value : Value) :
    r.Sets name value (r.pushLast name value) := by
  intro f
  simp only [pushLast, List.mem_append, List.mem_filter, List.mem_singleton, bne_iff_ne]
  exact or_comm

/-- A field that was there keeps its place, and so do all others. -/
theorem getElem?_insert_of_mem {r : Record} {name : String} (h : name ∈ r.names) (value : Value)
    (i : Nat) : (r.insert name value).fields[i]? =
      r.fields[i]?.map fun f => if f.1 = name then (name, value) else f := by
  rw [fields_insert, Json.put_of_mem h, List.getElem?_map]
  simp

/-- A new field goes last. -/
theorem fields_insert_of_notMem {r : Record} {name : String} (h : name ∉ r.names) (value : Value) :
    (r.insert name value).fields = r.fields ++ [(name, value)] := by
  rw [fields_insert, Json.put_of_notMem h]

/-! ### Many fields set -/

theorem fields_foldl_insert (r : Record) (fields : List (String × Value)) :
    (fields.foldl (fun r f => r.insert f.1 f.2) r).fields =
      fields.foldl (fun kept f => Json.put kept f.1 f.2) r.fields := by
  induction fields generalizing r with
  | nil => rfl
  | cons f fields ih => rw [List.foldl_cons, List.foldl_cons, ih, fields_insert]

/-- **The last field of a name is found**, where fields are inserted one after the other. -/
theorem get?_foldl_insert (fields : List (String × Value)) (name : String) :
    (fields.foldl (fun r f => r.insert f.1 f.2) empty).get? name = fields.reverse.lookup name := by
  induction fields using List.reverseRecOn with
  | nil => rfl
  | append_singleton fields f ih =>
    rw [List.foldl_append, List.foldl_cons, List.foldl_nil, (sets_insert _ f.1 f.2).get?_eq, ih]
    exact (Json.lookup_reverse_append_singleton fields f.1 f.2 name).symm

/-- The index makes no difference to the record. -/
theorem ofFields_eq_foldl (fields : List (String × Value)) :
    ofFields fields = fields.foldl (fun r f => r.insert f.1 f.2) empty := by
  apply ext_fields
  rw [fields_foldl_insert, fields_ofFields, ← Json.collapse_eq]
  rfl

/-- What is found under a name is the last value that was given. -/
theorem get?_ofFields (fields : List (String × Value)) (name : String) :
    (ofFields fields).get? name = fields.reverse.lookup name := by
  rw [ofFields_eq_foldl, get?_foldl_insert]

/-- **A record made in one pass** is the one made by inserting field by field. Its names are the
    distinct names of the fields in the order of first sight, each with the value of its last
    field. While the fields are gathered, a position that the index gives is always that of a
    field of the name. -/
theorem ofFields_eq_foldl_insert (fields : List (String × Value)) :
    ofFields fields = fields.foldl (fun r f => r.insert f.1 f.2) empty ∧
      (ofFields fields).names = (fields.map Prod.fst).eraseDups ∧
      (∀ name, (ofFields fields).get? name = fields.reverse.lookup name) ∧
      ∀ n, ((fields.take n).foldl (fun g f => g.add f.1 f.2) Gathered.start).Complete := by
  refine ⟨ofFields_eq_foldl fields, ?_, get?_ofFields fields, ?_⟩
  · rw [names, fields_ofFields, Json.map_fst_firstNamesLastValues]
  · intro n
    exact Gathered.complete_foldl Gathered.complete_start _

end Telemetry.Record
