import Telemetry.Record
import Telemetry.Proofs.Json.Collapse

namespace Telemetry.Record

/-!
# Fields gathered in one pass

Gathering looks up where a name stands; setting a member searches for it.  Both come to the same.

* `Gathered.Complete` — the index knows no name that is not there; each field keeps this
  (`Gathered.complete_add`).
* `Gathered.toList_add` — taking in a field sets it, in place or at the end.
* `fields_ofFields` — the record of any fields has their names in the order of first sight, each
  with its last value.
-/

namespace Gathered

/-- A position in the index is that of a field of the name. -/
def Complete (g : Gathered) : Prop :=
  ∀ (name : String) (i : Nat), g.position[name]? = some i →
    ∃ h : i < g.fields.size, g.fields[i].1 = name

/-- The index is empty before the first field. -/
theorem complete_start : start.Complete := by
  intro name i h
  simp [start] at h

variable {g : Gathered}

/-- A name that the index does not know is not there. -/
theorem notMem_names {name : String} (h : g.position[name]? = none) :
    name ∉ g.fields.toList.map Prod.fst := by
  intro hmem
  obtain ⟨f, hf, rfl⟩ := List.mem_map.1 hmem
  obtain ⟨i, hi, rfl⟩ := Array.mem_iff_getElem.1 (Array.mem_toList_iff.1 hf)
  rw [g.sound i hi] at h
  cases h

/-- A new field goes last. -/
theorem add_of_none {name : String} (h : g.position[name]? = none) (value : Value) :
    (g.add name value).fields = g.fields.push (name, value) ∧
      (g.add name value).position = g.position.insert name g.fields.size := by
  unfold add
  split
  · rename_i i hi
    rw [h] at hi
    cases hi
  · exact ⟨rfl, rfl⟩

/-- A field of a name that is there keeps its place. -/
theorem add_of_some (hg : g.Complete) {name : String} {i : Nat} (h : g.position[name]? = some i)
    (value : Value) : ∃ hi : i < g.fields.size,
      (g.add name value).fields = g.fields.set i (name, value) ∧
        (g.add name value).position = g.position := by
  obtain ⟨hi, hname⟩ := hg name i h
  refine ⟨hi, ?_⟩
  unfold add
  split
  · rename_i j hj
    obtain rfl : i = j := Option.some.inj (h.symm.trans hj)
    rw [dif_pos hi, dif_pos hname]
    exact ⟨rfl, rfl⟩
  · rename_i hnone
    rw [h] at hnone
    cases hnone

/-- The index stays complete. -/
theorem complete_add (hg : g.Complete) (name : String) (value : Value) :
    (g.add name value).Complete := by
  intro other j hj
  -- A new name gets the position at the end; a known one keeps its position.
  cases h : g.position[name]? with
  | none =>
    obtain ⟨hfields, hposition⟩ := add_of_none h value
    rw [hposition, Std.HashMap.getElem?_insert] at hj
    simp only [hfields]
    split at hj
    · rename_i heq
      obtain rfl : g.fields.size = j := Option.some.inj hj
      exact ⟨by simp, by simpa using heq⟩
    · obtain ⟨hlt, hname⟩ := hg other j hj
      refine ⟨by rw [Array.size_push]; omega, ?_⟩
      rw [Array.getElem_push_lt hlt, hname]
  | some i =>
    obtain ⟨hi, hfields, hposition⟩ := add_of_some hg h value
    rw [hposition] at hj
    obtain ⟨hlt, hname⟩ := hg other j hj
    simp only [hfields]
    refine ⟨by simpa using hlt, ?_⟩
    rw [Array.getElem_set]
    split
    · rename_i hij
      subst hij
      exact (hg name i h).2.symm.trans hname
    · exact hname

/-- So it does whichever fields are taken in. -/
theorem complete_foldl (hg : g.Complete) (fields : List (String × Value)) :
    (fields.foldl (fun g f => g.add f.1 f.2) g).Complete := by
  induction fields generalizing g with
  | nil => exact hg
  | cons f fields ih => exact ih (complete_add hg f.1 f.2)

/-- **Taking in a field sets it.** -/
theorem toList_add (hg : g.Complete) (name : String) (value : Value) :
    (g.add name value).fields.toList = Json.put g.fields.toList name value := by
  cases h : g.position[name]? with
  | none => rw [(add_of_none h value).1, Array.toList_push, Json.put_of_notMem (notMem_names h)]
  | some i =>
    obtain ⟨hi, hfields, -⟩ := add_of_some hg h value
    have hname := (hg name i h).2
    have hmem : name ∈ g.fields.toList.map Prod.fst := by
      rw [← hname]
      exact List.mem_map_of_mem (Array.mem_toList_iff.2 (Array.getElem_mem hi))
    rw [hfields, Array.toList_set, Json.put_of_mem hmem]
    apply List.ext_getElem (by simp)
    intro j hj hj'
    have hlt : j < g.fields.size := by simpa using hj
    rw [List.getElem_set, List.getElem_map, Array.getElem_toList]
    by_cases hij : i = j
    · subst hij
      rw [if_pos rfl, if_pos (by rw [hname]; exact beq_self_eq_true name)]
    · -- Two fields have two names.
      have hne : g.fields[j].1 ≠ name := by
        intro heq
        have hsound := g.sound j hlt
        rw [heq, h] at hsound
        exact hij (Option.some.inj hsound)
      rw [if_neg hij, if_neg (by rwa [beq_iff_eq])]

end Gathered

/-- **The record of any fields:** its names stand in the order of first sight, and each has the
    value of its last field. -/
theorem fields_ofFields (fields : List (String × Value)) :
    (ofFields fields).fields = Json.firstNamesLastValues fields := by
  have hgather : ∀ g : Gathered, g.Complete →
      (fields.foldl (fun g f => g.add f.1 f.2) g).fields.toList =
        fields.foldl (fun kept f => Json.put kept f.1 f.2) g.fields.toList := by
    intro g hg
    induction fields generalizing g with
    | nil => rfl
    | cons f fields ih =>
      rw [List.foldl_cons, List.foldl_cons, ih _ (Gathered.complete_add hg f.1 f.2),
        Gathered.toList_add hg]
  rw [← Json.collapse_eq]
  exact hgather _ Gathered.complete_start

end Telemetry.Record
