import Mathlib.Data.Finset.Card
import Mathlib.Data.Finset.Dedup
import Mathlib.Order.Interval.Finset.Nat
import Telemetry.Proofs.Schema.Shape

namespace Telemetry

/-!
# The history of a registry

What a registry answers is a function of the calls before, however many there were and
whichever records came with one shape.

* `SchemaCall` — a record whose schema is asked for, with the position of its time column.
* `Registry.run` — calls one after the other.
* `Signature.ordinal` — the number of distinct signatures up to the first sight of one.
* `Registry.Tracks` — the invariant: the table, its size and the counter stand for the
  calls so far.
* `Registry.Tracks.schema` — one call; `Registry.tracks_run` — a run of calls.
* `Registry.run_empty` — ids count distinct shapes in the order of first sight, and each
  call gets the descriptor of its own record.
-/

/-- A record whose schema is asked for, and the position of its time column if it has one. -/
structure SchemaCall where
  record : Record
  timeIndex : Option Nat

namespace SchemaCall

/-- The signature under which the call is looked up. -/
def signature (c : SchemaCall) : Signature := Signature.of c.record c.timeIndex

/-- The descriptor of the call's own record. -/
def descriptor (c : SchemaCall) : String := Descriptor.text c.record c.timeIndex

/-- Calls of one signature have one descriptor, whatever their records. -/
theorem descriptor_eq_of_signature_eq {c d : SchemaCall} (h : c.signature = d.signature) :
    c.descriptor = d.descriptor :=
  Descriptor.text_eq_iff.2 (Signature.of_eq_iff.1 h)

end SchemaCall

/-! ### Ordinals -/

namespace Signature

/-- A signature that was seen is not counted again. -/
theorem card_append_of_mem {seen : List Signature} {s : Signature} (hs : s ∈ seen) :
    (seen ++ [s]).toFinset.card = seen.toFinset.card := by
  rw [List.toFinset_append, Finset.union_eq_left.2 (by simpa using hs)]

theorem card_append_of_notMem {seen : List Signature} {s : Signature} (hs : s ∉ seen) :
    (seen ++ [s]).toFinset.card = seen.toFinset.card + 1 := by
  rw [List.toFinset_append, Finset.union_comm,
    ← Finset.card_insert_of_notMem (by simpa using hs : s ∉ seen.toFinset)]
  simp

/-- The number of distinct signatures up to and including the first occurrence of one. -/
def ordinal (seen : List Signature) (s : Signature) : Nat :=
  (seen.take (seen.idxOf s + 1)).toFinset.card

/-- What comes later does not change an ordinal. -/
theorem ordinal_append {seen : List Signature} {s : Signature} (hs : s ∈ seen)
    (later : List Signature) : ordinal (seen ++ later) s = ordinal seen s := by
  have hlt : seen.idxOf s < seen.length := List.idxOf_lt_length_iff.2 hs
  rw [ordinal, List.idxOf_append_of_mem hs, List.take_append_of_le_length hlt, ordinal]

/-- A signature that was not seen before gets the next ordinal. -/
theorem ordinal_append_self {seen : List Signature} {s : Signature} (hs : s ∉ seen) :
    ordinal (seen ++ [s]) s = seen.toFinset.card + 1 := by
  have hidx : (seen ++ [s]).idxOf s = seen.length := by
    rw [List.idxOf_append_of_notMem hs]
    simp
  have htake : (seen ++ [s]).take (seen.length + 1) = seen ++ [s] :=
    List.take_of_length_le (by simp)
  rw [ordinal, hidx, htake, card_append_of_notMem hs]

/-- **Ordinals follow the order of first sight.** -/
theorem ordinal_lt_ordinal {seen : List Signature} {s t : Signature} (ht : t ∈ seen)
    (hst : seen.idxOf s < seen.idxOf t) : ordinal seen s < ordinal seen t := by
  -- The signatures up to `s` are among those up to `t`, and `t` itself is not among them.
  have hfresh : t ∉ (seen.take (seen.idxOf s + 1)).toFinset := by
    rw [List.mem_toFinset, List.mem_take_iff_idxOf_lt ht]
    omega
  refine Finset.card_lt_card ⟨?_, ?_⟩
  · intro x hx
    rw [List.mem_toFinset] at hx ⊢
    exact (List.take_subset_take_left seen (by omega)) hx
  · intro hsub
    refine hfresh (hsub ?_)
    rw [List.mem_toFinset, List.mem_take_iff_idxOf_lt ht]
    omega

/-- **Ordinals leave no gap:** they are the numbers from 1 to the number of distinct
    signatures. -/
theorem exists_ordinal_eq_iff (seen : List Signature) (n : Nat) :
    (∃ s ∈ seen, ordinal seen s = n) ↔ 1 ≤ n ∧ n ≤ seen.toFinset.card := by
  -- The last signature either was seen, and nothing changes, or it takes the next number.
  induction seen using List.reverseRecOn with
  | nil => simp; omega
  | append_singleton seen s ih =>
    by_cases hs : s ∈ seen
    · have hkeep : ∀ t ∈ seen ++ [s], t ∈ seen ∧ ordinal (seen ++ [s]) t = ordinal seen t := by
        intro t ht
        have ht' : t ∈ seen := by
          rcases List.mem_append.1 ht with ht | ht
          · exact ht
          · rw [List.mem_singleton.1 ht]; exact hs
        exact ⟨ht', ordinal_append ht' [s]⟩
      rw [card_append_of_mem hs, ← ih]
      constructor
      · rintro ⟨t, ht, rfl⟩
        exact ⟨t, (hkeep t ht).1, (hkeep t ht).2.symm⟩
      · rintro ⟨t, ht, rfl⟩
        exact ⟨t, List.mem_append_left _ ht, ordinal_append ht [s]⟩
    · rw [card_append_of_notMem hs]
      constructor
      · rintro ⟨t, ht, rfl⟩
        rcases List.mem_append.1 ht with ht | ht
        · have := ih.1 ⟨t, ht, (ordinal_append ht [s]).symm⟩
          omega
        · rw [List.mem_singleton.1 ht, ordinal_append_self hs]
          omega
      · rintro ⟨hlow, hhigh⟩
        by_cases hn : n ≤ seen.toFinset.card
        · obtain ⟨t, ht, rfl⟩ := ih.2 ⟨hlow, hn⟩
          exact ⟨t, List.mem_append_left _ ht, ordinal_append ht [s]⟩
        · refine ⟨s, by simp, ?_⟩
          rw [ordinal_append_self hs]
          omega

end Signature

namespace Registry

/-! ### Runs -/

/-- The entries that calls return, in order, and the registry after them. -/
def run (g : Registry) : List SchemaCall → List SchemaEntry × Registry
  | [] => ([], g)
  | c :: cs =>
    let (entry, g) := g.schema c.record c.timeIndex
    let (entries, g) := g.run cs
    (entry :: entries, g)

theorem run_append (g : Registry) (cs ds : List SchemaCall) :
    g.run (cs ++ ds) =
      ((g.run cs).1 ++ ((g.run cs).2.run ds).1, ((g.run cs).2.run ds).2) := by
  induction cs generalizing g with
  | nil => rfl
  | cons c cs ih => simp only [List.cons_append, run, ih]

/-- The entry of a call after the calls before it. -/
def entryOf (calls : List SchemaCall) (c : SchemaCall) : SchemaEntry :=
  ⟨Signature.ordinal (calls.map SchemaCall.signature) c.signature, c.descriptor⟩

/-- The registry stands for the calls: it holds the entry of each of them and no other, and
    both its size and its last id are the number of distinct signatures among them. -/
structure Tracks (g : Registry) (calls : List SchemaCall) : Prop where
  lastId_eq : g.lastId = (calls.map SchemaCall.signature).toFinset.card
  size_eq : g.size = (calls.map SchemaCall.signature).toFinset.card
  seen : ∀ c ∈ calls, g.find? c.signature = some (entryOf calls c)
  unseen : ∀ s, s ∉ calls.map SchemaCall.signature → g.find? s = none

/-- The empty registry has seen nothing. -/
theorem tracks_empty : Tracks .empty [] where
  lastId_eq := rfl
  size_eq := rfl
  seen := by simp
  unseen := fun _ _ => rfl

/-! ### One call -/

/-- A signature that was seen has its entry, and the registry stays as it is. -/
theorem schema_of_find?_eq_some {g : Registry} {c : SchemaCall} {entry : SchemaEntry}
    (h : g.find? c.signature = some entry) : g.schema c.record c.timeIndex = (entry, g) := by
  have h' : g.find? (Signature.of c.record c.timeIndex) = some entry := h
  simp only [schema, h']

/-- A signature that is new takes the next id, with the descriptor of its call. -/
theorem schema_of_find?_eq_none {g : Registry} {c : SchemaCall}
    (h : g.find? c.signature = none) :
    g.schema c.record c.timeIndex =
      (⟨g.lastId + 1, c.descriptor⟩,
        ⟨(c.signature, ⟨g.lastId + 1, c.descriptor⟩) :: g.table, g.lastId + 1⟩) := by
  have h' : g.find? (Signature.of c.record c.timeIndex) = none := h
  simp only [schema, h', SchemaCall.signature, SchemaCall.descriptor]

variable {g : Registry} {calls : List SchemaCall}

/-- Later calls change no entry. -/
theorem entryOf_append {c : SchemaCall}
    (hc : c.signature ∈ calls.map SchemaCall.signature) (later : List SchemaCall) :
    entryOf (calls ++ later) c = entryOf calls c := by
  rw [entryOf, List.map_append, Signature.ordinal_append hc, entryOf]

/-- The entry of a signature that was seen, asked for by another record. -/
theorem Tracks.find?_eq_some (h : g.Tracks calls) {c : SchemaCall}
    (hc : c.signature ∈ calls.map SchemaCall.signature) :
    g.find? c.signature = some (entryOf calls c) := by
  obtain ⟨d, hd, hdc⟩ := List.mem_map.1 hc
  have hentry : entryOf calls d = entryOf calls c := by
    rw [entryOf, entryOf, hdc, SchemaCall.descriptor_eq_of_signature_eq hdc]
  rw [← hdc, h.seen d hd, hentry]

/-- A call of a signature that was seen changes nothing. -/
theorem Tracks.schema_hit (h : g.Tracks calls) {c : SchemaCall}
    (hc : c.signature ∈ calls.map SchemaCall.signature) :
    g.schema c.record c.timeIndex = (entryOf (calls ++ [c]) c, g) ∧ g.Tracks (calls ++ [c]) := by
  have hcard : ((calls ++ [c]).map SchemaCall.signature).toFinset.card =
      (calls.map SchemaCall.signature).toFinset.card := by
    rw [List.map_append, List.map_singleton, Signature.card_append_of_mem hc]
  refine ⟨?_, ⟨?_, ?_, ?_, ?_⟩⟩
  · rw [entryOf_append hc]
    exact schema_of_find?_eq_some (h.find?_eq_some hc)
  · rw [hcard]; exact h.lastId_eq
  · rw [hcard]; exact h.size_eq
  · intro d hd
    have hd' : d.signature ∈ calls.map SchemaCall.signature := by
      rcases List.mem_append.1 hd with hd | hd
      · exact List.mem_map_of_mem hd
      · rw [List.mem_singleton.1 hd]; exact hc
    rw [entryOf_append hd']
    exact h.find?_eq_some hd'
  · intro s hs
    rw [List.map_append, List.mem_append, not_or] at hs
    exact h.unseen s hs.1

/-- A call of a new signature registers it under the next id. -/
theorem Tracks.schema_miss (h : g.Tracks calls) {c : SchemaCall}
    (hc : c.signature ∉ calls.map SchemaCall.signature) :
    (g.schema c.record c.timeIndex).1 = entryOf (calls ++ [c]) c ∧
      (g.schema c.record c.timeIndex).2.Tracks (calls ++ [c]) := by
  have hcard : ((calls ++ [c]).map SchemaCall.signature).toFinset.card =
      (calls.map SchemaCall.signature).toFinset.card + 1 := by
    rw [List.map_append, List.map_singleton, Signature.card_append_of_notMem hc]
  have hentry : entryOf (calls ++ [c]) c = ⟨g.lastId + 1, c.descriptor⟩ := by
    rw [entryOf, List.map_append, List.map_singleton, Signature.ordinal_append_self hc,
      h.lastId_eq]
  rw [schema_of_find?_eq_none (h.unseen _ hc), hentry]
  refine ⟨rfl, ⟨?_, ?_, ?_, ?_⟩⟩
  · rw [hcard, h.lastId_eq]
  · have hsize := h.size_eq
    rw [size] at hsize
    rw [hcard, size, List.length_cons, hsize]
  · intro d hd
    -- The new entry answers for every record of its signature, not only for that of `c`.
    by_cases hdc : d.signature = c.signature
    · have hdd : entryOf (calls ++ [c]) d = entryOf (calls ++ [c]) c := by
        rw [entryOf, entryOf, hdc, SchemaCall.descriptor_eq_of_signature_eq hdc]
      rw [hdd, hentry, find?, hdc, List.lookup_cons_self]
    · have hd' : d ∈ calls := by
        rcases List.mem_append.1 hd with hd | hd
        · exact hd
        · exact absurd (congrArg SchemaCall.signature (List.mem_singleton.1 hd)) hdc
      rw [entryOf_append (List.mem_map_of_mem hd'), ← h.seen d hd', find?, find?,
        List.lookup_cons, beq_false_of_ne hdc]
  · intro s hs
    rw [List.map_append, List.mem_append, not_or, List.map_singleton, List.mem_singleton] at hs
    rw [← h.unseen s hs.1, find?, find?, List.lookup_cons, beq_false_of_ne hs.2]

/-- **One call.** It returns the entry of its own record, and the registry stands for the
    calls including it. -/
theorem Tracks.schema (h : g.Tracks calls) (c : SchemaCall) :
    (g.schema c.record c.timeIndex).1 = entryOf (calls ++ [c]) c ∧
      (g.schema c.record c.timeIndex).2.Tracks (calls ++ [c]) := by
  by_cases hc : c.signature ∈ calls.map SchemaCall.signature
  · obtain ⟨heq, htracks⟩ := h.schema_hit hc
    rw [heq]
    exact ⟨rfl, htracks⟩
  · exact h.schema_miss hc

/-! ### A run of calls -/

/-- Each call returns its entry among all calls, those after it
    included, and the registry stands for all of them. -/
theorem tracks_run (calls : List SchemaCall) :
    (Registry.empty.run calls).1 = calls.map (entryOf calls) ∧
      (Registry.empty.run calls).2.Tracks calls := by
  -- The induction is on the last call, since an entry depends on the calls before it.
  induction calls using List.reverseRecOn with
  | nil => exact ⟨rfl, tracks_empty⟩
  | append_singleton calls c ih =>
    obtain ⟨hentries, htracks⟩ := ih
    obtain ⟨hentry, htracks'⟩ := htracks.schema c
    have hold : calls.map (entryOf calls) = calls.map (entryOf (calls ++ [c])) :=
      List.map_congr_left fun d hd => (entryOf_append (List.mem_map_of_mem hd) [c]).symm
    rw [run_append]
    simp only [run]
    refine ⟨?_, htracks'⟩
    rw [hentries, hold, hentry, List.map_append, List.map_singleton]

theorem Tracks.contains_iff (h : g.Tracks calls) (s : Signature) :
    g.contains s = true ↔ s ∈ calls.map SchemaCall.signature := by
  rw [contains]
  constructor
  · intro hs
    by_contra hno
    rw [h.unseen s hno] at hs
    exact absurd hs (by decide)
  · intro hs
    obtain ⟨c, hc, rfl⟩ := List.mem_map.1 hs
    rw [h.seen c hc]
    rfl

/-- **Ids count shapes in the order of first sight.** On a registry that has seen nothing,
    each call of a run returns as its id the number of distinct signatures up to the first
    call of its own signature, and the descriptor of its own record.  So the ids are the
    numbers from 1 to the number of distinct signatures, in the order of first sight; the
    size and the last id are that number, and exactly the signatures of the calls are
    registered. -/
theorem run_empty (calls : List SchemaCall) :
    let signatures := calls.map SchemaCall.signature
    let entries := (Registry.empty.run calls).1
    let after := (Registry.empty.run calls).2
    entries = calls.map (fun c => ⟨Signature.ordinal signatures c.signature, c.descriptor⟩) ∧
      (∀ n, n ∈ entries.map (·.id) ↔ 1 ≤ n ∧ n ≤ signatures.toFinset.card) ∧
      (∀ s, ∀ t ∈ signatures, signatures.idxOf s < signatures.idxOf t →
        Signature.ordinal signatures s < Signature.ordinal signatures t) ∧
      after.size = signatures.toFinset.card ∧
      after.lastId = signatures.toFinset.card ∧
      ∀ s, after.contains s = true ↔ s ∈ signatures := by
  obtain ⟨hentries, htracks⟩ := tracks_run calls
  refine ⟨hentries, ?_, ?_, htracks.size_eq, htracks.lastId_eq, htracks.contains_iff⟩
  · intro n
    rw [← Signature.exists_ordinal_eq_iff, hentries]
    simp [entryOf]
  · intro s t ht hst
    exact Signature.ordinal_lt_ordinal ht hst

end Registry

end Telemetry
