import Mathlib.Data.List.Basic
import Mathlib.Data.List.Induction
import Telemetry.Json.Document

namespace Telemetry.Json

/-!
# Repeated names

Members that are set one after the other keep, for each name, the place where it was set
first and the value that was set last.

* `put_of_mem`, `put_of_notMem` — a member is set in place, or at the end.
* `mem_put` — in either case it stands beside the members of other names.
* `nodup_collapse`, `collapse_of_nodup` — no name is left twice, and nothing is done where none
  is.
* `collapse_map` — the values have no say in it.
* `collapse_append_singleton` — one more member.
* `collapse_eq` — the names in the order of first sight, each with its last value.
-/

variable {α β : Type}

/-- The test for a name decides whether a member has it. -/
theorem any_fst_iff {members : List (String × α)} {name : String} :
    (members.any (·.1 == name)) = true ↔ name ∈ members.map Prod.fst := by
  simp [List.any_eq_true, List.mem_map]

theorem put_of_mem {members : List (String × α)} {name : String}
    (h : name ∈ members.map Prod.fst) (value : α) :
    put members name value = members.map fun m => if m.1 == name then (name, value) else m := by
  rw [put, if_pos (any_fst_iff.2 h)]

theorem put_of_notMem {members : List (String × α)} {name : String}
    (h : name ∉ members.map Prod.fst) (value : α) :
    put members name value = members ++ [(name, value)] := by
  rw [put, if_neg (fun hany => h (any_fst_iff.1 hany))]

/-- Setting a member repeats no name. -/
theorem nodup_put {members : List (String × α)} (h : (members.map Prod.fst).Nodup)
    (name : String) (value : α) : ((put members name value).map Prod.fst).Nodup := by
  by_cases hname : name ∈ members.map Prod.fst
  · have hnames : (put members name value).map Prod.fst = members.map Prod.fst := by
      rw [put_of_mem hname, List.map_map]
      apply List.map_congr_left
      intro m _
      show (if m.1 == name then (name, value) else m).1 = m.1
      split
      · exact (beq_iff_eq.1 ‹_›).symm
      · rfl
    rw [hnames]
    exact h
  · rw [put_of_notMem hname, List.map_append, List.nodup_append]
    refine ⟨h, by simp, ?_⟩
    intro n hn m hm heq
    obtain rfl : n = name := heq.trans (List.mem_singleton.1 hm)
    exact hname hn

/-- A member that is set stands beside those of other names. -/
theorem mem_put {members : List (String × α)} {name : String} {value : α} {m : String × α} :
    m ∈ put members name value ↔ m = (name, value) ∨ m ∈ members ∧ m.1 ≠ name := by
  by_cases hname : name ∈ members.map Prod.fst
  · rw [put_of_mem hname, List.mem_map]
    constructor
    · rintro ⟨old, hold, rfl⟩
      by_cases heq : old.1 = name
      · exact .inl (by rw [if_pos (beq_iff_eq.2 heq)])
      · rw [if_neg (by rwa [beq_iff_eq])]
        exact .inr ⟨hold, heq⟩
    · rintro (rfl | ⟨hm, hne⟩)
      · obtain ⟨old, hold, heq⟩ := List.mem_map.1 hname
        exact ⟨old, hold, if_pos (beq_iff_eq.2 heq)⟩
      · exact ⟨m, hm, if_neg (by rwa [beq_iff_eq])⟩
  · have hne : m ∈ members → m.1 ≠ name := by
      rintro hm rfl
      exact hname (List.mem_map_of_mem hm)
    rw [put_of_notMem hname, List.mem_append, List.mem_singleton, and_iff_left_of_imp hne,
      or_comm]

/-- What holds of the values goes on to hold if it holds of the new one. -/
theorem forall_mem_put {p : α → Prop} {members : List (String × α)} {value : α}
    (h : ∀ m ∈ members, p m.2) (hvalue : p value) (name : String) :
    ∀ m ∈ put members name value, p m.2 := by
  intro m hm
  rcases mem_put.1 hm with rfl | ⟨hm, -⟩
  · exact hvalue
  · exact h m hm

/-- Values may be changed before or after a member is set. -/
theorem put_map (f : α → β) (members : List (String × α)) (name : String) (value : α) :
    put (members.map (Prod.map id f)) name (f value) =
      (put members name value).map (Prod.map id f) := by
  have hnames : (members.map (Prod.map id f)).map Prod.fst = members.map Prod.fst := by
    rw [List.map_map]
    rfl
  by_cases hname : name ∈ members.map Prod.fst
  · rw [put_of_mem hname, put_of_mem (hnames ▸ hname), List.map_map, List.map_map]
    apply List.map_congr_left
    intro m _
    show (if m.1 == name then (name, f value) else (m.1, f m.2)) =
      Prod.map id f (if m.1 == name then (name, value) else m)
    split <;> rfl
  · rw [put_of_notMem hname, put_of_notMem (hnames ▸ hname), List.map_append]
    rfl

/-- The last member is set into all others. -/
theorem collapse_append_singleton (members : List (String × α)) (name : String) (value : α) :
    collapse (members ++ [(name, value)]) = put (collapse members) name value := by
  rw [collapse, List.foldl_append]
  rfl

theorem nodup_collapse (members : List (String × α)) :
    ((collapse members).map Prod.fst).Nodup := by
  induction members using List.reverseRecOn with
  | nil => exact List.nodup_nil
  | append_singleton members m ih =>
    rw [collapse_append_singleton]
    exact nodup_put ih m.1 m.2

/-- What holds of all values holds of those that are left. -/
theorem forall_mem_collapse {p : α → Prop} {members : List (String × α)}
    (h : ∀ m ∈ members, p m.2) : ∀ m ∈ collapse members, p m.2 := by
  induction members using List.reverseRecOn with
  | nil => exact h
  | append_singleton members m ih =>
    rw [collapse_append_singleton]
    apply forall_mem_put
    · exact ih fun m hm => h m (List.mem_append_left _ hm)
    · exact h m (by simp)

/-- Members that have each name once stay as they are. -/
theorem collapse_of_nodup {members : List (String × α)} (h : (members.map Prod.fst).Nodup) :
    collapse members = members := by
  induction members using List.reverseRecOn with
  | nil => rfl
  | append_singleton members m ih =>
    rw [List.map_append, List.nodup_append] at h
    obtain ⟨hnodup, -, hname⟩ := h
    rw [collapse_append_singleton, ih hnodup, put_of_notMem]
    intro hm
    exact hname m.1 hm m.1 (by simp) rfl

/-- The values of collapsed members can be changed before or after. -/
theorem collapse_map (f : α → β) (members : List (String × α)) :
    collapse (members.map (Prod.map id f)) = (collapse members).map (Prod.map id f) := by
  induction members using List.reverseRecOn with
  | nil => rfl
  | append_singleton members m ih =>
    rw [List.map_append, collapse_append_singleton, ← put_map, ← ih]
    exact collapse_append_singleton _ m.1 (f m.2)

/-- The names of the members in the order of first sight, each with the value of its last
    occurrence. -/
def firstNamesLastValues (members : List (String × α)) : List (String × α) :=
  (members.map Prod.fst).eraseDups.filterMap fun name =>
    (members.reverse.lookup name).map fun value => (name, value)

/-- The last member decides about its own name and about no other. -/
theorem lookup_reverse_append_singleton (members : List (String × α)) (name : String) (value : α)
    (other : String) : (members ++ [(name, value)]).reverse.lookup other =
      if other = name then some value else members.reverse.lookup other := by
  rw [List.reverse_append, List.reverse_singleton, List.singleton_append, List.lookup_cons]
  by_cases h : other = name
  · rw [if_pos h, beq_iff_eq.2 h]
  · rw [if_neg h, beq_false_of_ne h]

/-- Each name has a last value. -/
theorem exists_lookup_reverse {members : List (String × α)} {name : String}
    (h : name ∈ members.map Prod.fst) : ∃ value, members.reverse.lookup name = some value := by
  cases hlookup : members.reverse.lookup name with
  | some value => exact ⟨value, rfl⟩
  | none =>
    obtain ⟨m, hm, rfl⟩ := List.mem_map.1 h
    have hne := List.lookup_eq_none_iff.1 hlookup m (List.mem_reverse.2 hm)
    simp at hne

/-- The names in the order of first sight. -/
theorem map_fst_firstNamesLastValues (members : List (String × α)) :
    (firstNamesLastValues members).map Prod.fst = (members.map Prod.fst).eraseDups := by
  rw [firstNamesLastValues, List.map_filterMap]
  refine (List.filterMap_congr fun name hname => ?_).trans List.filterMap_some
  obtain ⟨value, hvalue⟩ := exists_lookup_reverse (List.mem_eraseDups.1 hname)
  rw [hvalue]
  rfl

/-- No name is lost or comes in. -/
theorem mem_map_fst_firstNamesLastValues {members : List (String × α)} {name : String} :
    name ∈ (firstNamesLastValues members).map Prod.fst ↔ name ∈ members.map Prod.fst := by
  rw [map_fst_firstNamesLastValues, List.mem_eraseDups]

/-- **Collapsed members** have the names in the order of first sight, each with its last
    value. -/
theorem collapse_eq (members : List (String × α)) :
    collapse members = firstNamesLastValues members := by
  induction members using List.reverseRecOn with
  | nil => rfl
  | append_singleton members m ih =>
    obtain ⟨name, value⟩ := m
    -- Only the value of the last member's name may change.
    have hother : ∀ n, n ≠ name →
        ((members ++ [(name, value)]).reverse.lookup n).map (fun v => (n, v)) =
          (members.reverse.lookup n).map fun v => (n, v) := by
      intro n hn
      rw [lookup_reverse_append_singleton, if_neg hn]
    have hown : (members ++ [(name, value)]).reverse.lookup name = some value := by
      rw [lookup_reverse_append_singleton, if_pos rfl]
    rw [collapse_append_singleton, ih]
    by_cases hname : name ∈ members.map Prod.fst
    · -- A name seen before keeps its place.
      have hnames : ((members ++ [(name, value)]).map Prod.fst).eraseDups =
          (members.map Prod.fst).eraseDups := by
        rw [List.map_append, List.eraseDups_append]
        simp [List.removeAll, hname]
      rw [put_of_mem (mem_map_fst_firstNamesLastValues.2 hname), firstNamesLastValues,
        firstNamesLastValues, hnames, List.map_filterMap]
      apply List.filterMap_congr
      intro n hn
      obtain ⟨old, hold⟩ := exists_lookup_reverse (List.mem_eraseDups.1 hn)
      by_cases heq : n = name
      · subst heq
        simp only [hown, hold, Option.map_some, beq_self_eq_true, if_true]
      · rw [hother n heq, hold]
        simp [heq]
    · -- A new name goes last.
      have hnames : ((members ++ [(name, value)]).map Prod.fst).eraseDups =
          (members.map Prod.fst).eraseDups ++ [name] := by
        rw [List.map_append, List.eraseDups_append]
        simp [List.removeAll, hname, List.eraseDups_cons]
      rw [put_of_notMem (fun h => hname (mem_map_fst_firstNamesLastValues.1 h)),
        firstNamesLastValues, firstNamesLastValues, hnames, List.filterMap_append]
      congr 1
      · apply List.filterMap_congr
        intro n hn
        have hne : n ≠ name := by
          rintro rfl
          exact hname (List.mem_eraseDups.1 hn)
        exact (hother n hne).symm
      · simp

end Telemetry.Json
