import Mathlib.Data.List.Nodup
import Mathlib.Data.List.Perm.Basic
import Telemetry.Proofs.Ack.Pending

namespace Telemetry

/-!
# Frames that wait, in no order

A hash map keeps what waits in no order, and lists it differently from call to call.  What grows
too old leaves it in three passes: its numbers are collected, those are retained whose removal
finds an entry, and these are sorted.  All that can be seen is what the sorted list shows.

* `Scattered.insert`, `remove`, `retain`, `evictExpired`, `snapshot` — the calls on entries in any
  order, no two of which have the same number.
* `mergeSort_eq_of_perm` — sorting by distinct keys does not depend on the order before.
* `Scattered.retain_eq` — a removal of numbers that are there finds them all.
* `Scattered.evictExpired_eq`, `Scattered.snapshot_eq` — eviction and snapshot, pass by pass.
* `Scattered.perm_take`, `Scattered.left_eq` — one call; `Scattered.Runs.perm_run` — any calls, in
  whatever order the entries come between them.
-/

open PendingFrames

namespace Scattered

/-! ### The calls -/

/-- Puts an entry in; an entry of the same number is replaced. -/
def insert (es : List PendingFrame) (id : Nat) (frame : String) (now : Nat) : List PendingFrame :=
  ⟨id, frame, now⟩ :: es.filter (·.id != id)

/-- Takes out the entry of a number, and tells whether there was one. -/
def remove (es : List PendingFrame) (id : Nat) : Bool × List PendingFrame :=
  (es.any (·.id == id), es.filter (·.id != id))

/-- Takes out the entries of numbers, one after the other, and retains the numbers that had
    one. -/
def retain (es : List PendingFrame) : List Nat → List Nat × List PendingFrame
  | [] => ([], es)
  | id :: ids =>
    let (found, es) := remove es id
    let (out, es) := retain es ids
    (if found then id :: out else out, es)

/-- Drops what is too old: collects the numbers, retains those that were still there, and sorts
    them. -/
def evictExpired (es : List PendingFrame) (timeout now : Nat) : List Nat × List PendingFrame :=
  let expired := (es.filter (isExpired timeout now)).map (·.id)
  let (out, es) := retain es expired
  (out.mergeSort, es)

/-- The frames with their numbers, sorted by these. -/
def snapshot (es : List PendingFrame) : List (Nat × String) :=
  (es.map fun e => (e.id, e.frame)).mergeSort fun a b => a.1 ≤ b.1

end Scattered

/-! ### Sorting -/

/-- **Sorting by distinct keys** gives the one list in strictly ascending order that has the same
    elements. -/
theorem mergeSort_eq_of_perm {α : Type} (key : α → Nat) {xs ys : List α} (h : xs.Perm ys)
    (hys : ys.Pairwise fun a b => key a < key b) :
    (xs.mergeSort fun a b => key a ≤ key b) = ys := by
  have hperm : (xs.mergeSort fun a b => key a ≤ key b).Perm ys := (List.mergeSort_perm _ _).trans h
  have hinj : ∀ a ∈ ys, ∀ b ∈ ys, key a = key b → a = b := fun a ha b hb =>
    List.inj_on_of_nodup_map (List.pairwise_map.2 (hys.imp Nat.ne_of_lt)) ha hb
  have hsorted : (xs.mergeSort fun a b => key a ≤ key b).Pairwise fun a b => key a ≤ key b := by
    let le : α → α → Bool := fun a b => key a ≤ key b
    have htrans : ∀ a b c, le a b → le b c → le a c := fun a b c => by simpa [le] using Nat.le_trans
    have htotal : ∀ a b, le a b || le b a := fun a b => by simpa [le] using Nat.le_total _ _
    simpa [le] using List.pairwise_mergeSort htrans htotal xs
  refine hperm.eq_of_pairwise ?_ hsorted (hys.imp Nat.le_of_lt)
  intro a b ha hb hab hba
  exact hinj a (hperm.mem_iff.1 ha) b hb (Nat.le_antisymm hab hba)

namespace Scattered

variable {p : PendingFrames} {es fs : List PendingFrame}

/-! ### Pass by pass -/

/-- Entries of one number are one entry, in whatever order they come. -/
theorem inj_id (h : es.Perm p.entries) {e f : PendingFrame} (he : e ∈ es) (hf : f ∈ es)
    (hid : e.id = f.id) : e = f :=
  p.inj_id (h.mem_iff.1 he) (h.mem_iff.1 hf) hid

/-- No two entries have the same number. -/
theorem nodup_map_id (h : es.Perm p.entries) : (es.map (·.id)).Nodup :=
  (h.map _).nodup_iff.2 (List.pairwise_map.2 (p.sorted.imp Nat.ne_of_lt))

/-- **Removals of distinct numbers that are there** find all of them, and leave the entries of
    the other numbers. -/
theorem retain_eq {ids : List Nat} (hnodup : ids.Nodup) (hids : ∀ id ∈ ids, ∃ e ∈ es, e.id = id) :
    retain es ids = (ids, es.filter fun e => e.id ∉ ids) := by
  induction ids generalizing es with
  | nil => simp [retain]
  | cons id ids ih =>
    obtain ⟨hid, hothers⟩ := List.nodup_cons.1 hnodup
    obtain ⟨⟨e, he, rfl⟩, hthere⟩ := List.forall_mem_cons.1 hids
    have hfound : es.any (·.id == e.id) = true := List.any_eq_true.2 ⟨e, he, beq_self_eq_true _⟩
    -- The removal leaves the entries of the other numbers, as these are distinct.
    have hrest : ∀ id ∈ ids, ∃ f ∈ es.filter (·.id != e.id), f.id = id := by
      intro id hmem
      obtain ⟨f, hf, rfl⟩ := hthere id hmem
      refine ⟨f, List.mem_filter.2 ⟨hf, bne_iff_ne.2 fun heq => hid (heq ▸ hmem)⟩, rfl⟩
    simp only [retain, remove, hfound, ih hothers hrest, List.filter_filter, if_true]
    refine congrArg _ (List.filter_congr fun f _ => ?_)
    rw [Bool.eq_iff_iff]
    simp [and_comm]

/-- **Eviction, pass by pass,** drops what is too old, and reports it in ascending order. -/
theorem evictExpired_eq (h : es.Perm p.entries) (timeout now : Nat) :
    evictExpired es timeout now =
      ((p.evictExpired timeout now).1, es.filter (!isExpired timeout now ·)) := by
  have hfound : ∀ id ∈ (es.filter (isExpired timeout now)).map (·.id), ∃ e ∈ es, e.id = id := by
    intro id hid
    obtain ⟨e, he, rfl⟩ := List.mem_map.1 hid
    exact ⟨e, List.mem_of_mem_filter he, rfl⟩
  have hnodup : ((es.filter (isExpired timeout now)).map (·.id)).Nodup :=
    (nodup_map_id h).sublist (List.filter_sublist.map _)
  have hperm : ((es.filter (isExpired timeout now)).map (·.id)).Perm
      (p.evictExpired timeout now).1 := (h.filter _).map _
  have hsorted := mergeSort_eq_of_perm id hperm (pairwise_left p (.evictExpired timeout now))
  simp only [evictExpired, retain_eq hnodup hfound]
  refine Prod.ext hsorted (List.filter_congr fun e he => ?_)
  -- An entry that is left has a number of its own, so it is not too old.
  rw [Bool.eq_iff_iff, decide_eq_true_eq, Bool.not_eq_true', ← Bool.not_eq_true]
  refine not_congr ⟨fun hid => ?_, fun hold => ?_⟩
  · obtain ⟨f, hf, hid⟩ := List.mem_map.1 hid
    obtain ⟨hf, hold⟩ := List.mem_filter.1 hf
    rwa [← inj_id h hf he hid]
  · exact List.mem_map.2 ⟨e, List.mem_filter.2 ⟨he, hold⟩, rfl⟩

/-- **The snapshot** is sorted, whatever the order of the entries. -/
theorem snapshot_eq (h : es.Perm p.entries) : snapshot es = p.snapshot :=
  mergeSort_eq_of_perm Prod.fst (h.map _) (List.pairwise_map.2 p.sorted)

/-! ### One call -/

/-- What becomes of entries in a call. -/
def take (es : List PendingFrame) : Call → List PendingFrame
  | .insert id frame now => insert es id frame now
  | .remove id => (remove es id).2
  | .evictExpired timeout now => (evictExpired es timeout now).2

/-- The numbers that leave in a call, as it reports them. -/
def left (es : List PendingFrame) : Call → List Nat
  | .insert _ _ _ => []
  | .remove id => if (remove es id).1 then [id] else []
  | .evictExpired timeout now => (evictExpired es timeout now).1

/-- A number is found in any order. -/
theorem any_id_eq (h : es.Perm p.entries) (id : Nat) : es.any (·.id == id) = p.contains id := by
  rw [contains, Bool.eq_iff_iff, List.any_eq_true, List.any_eq_true]
  exact exists_congr fun e => and_congr_left fun _ => h.mem_iff

/-- **After a call** the same frames wait as in the sorted list. -/
theorem perm_take (h : es.Perm p.entries) (c : Call) : (take es c).Perm (p.take c).entries := by
  cases c with
  | insert id frame now =>
    have hplaced : (p.insert id frame now).entries.Nodup :=
      List.Nodup.of_map _ (nodup_map_id (.refl _))
    have hinserted : (insert es id frame now).Nodup := by
      refine List.nodup_cons.2 ⟨fun hmem => ?_, (List.Nodup.of_map _ (nodup_map_id h)).filter _⟩
      exact bne_iff_ne.1 (List.mem_filter.1 hmem).2 rfl
    refine (List.perm_ext_iff_of_nodup hinserted hplaced).2 fun e => ?_
    show e ∈ insert es id frame now ↔ e ∈ place ⟨id, frame, now⟩ p.entries
    rw [mem_place_iff p.sorted, insert, List.mem_cons, List.mem_filter, h.mem_iff, bne_iff_ne]
  | remove id => exact h.filter _
  | evictExpired timeout now =>
    rw [take, evictExpired_eq h]
    exact h.filter _

/-- **A call reports** what it reports of the sorted list. -/
theorem left_eq (h : es.Perm p.entries) (c : Call) : left es c = p.left c := by
  cases c with
  | insert id frame now => rfl
  | remove id =>
    show (if es.any (·.id == id) then [id] else []) = if p.contains id then [id] else []
    rw [any_id_eq h]
  | evictExpired timeout now =>
    rw [left, evictExpired_eq h]
    rfl

/-! ### Any calls -/

/-- Calls one after the other, the numbers that leave in them, and what waits then.  The entries may
    come into another order before each call and at the end. -/
inductive Runs : List PendingFrame → List Call → List Nat → List PendingFrame → Prop
  | nil {es fs : List PendingFrame} (h : es.Perm fs) : Runs es [] [] fs
  | cons {es fs gs : List PendingFrame} {c : Call} {calls : List Call} {out : List Nat}
      (h : es.Perm fs) (hrest : Runs (take fs c) calls out gs) :
      Runs es (c :: calls) (left fs c ++ out) gs

/-- **In whatever order the entries are kept,** the same frames wait after any calls, the calls
    report the same, and so does the snapshot. -/
theorem Runs.perm_run {calls : List Call} {out : List Nat} (hruns : Runs es calls out fs)
    (h : es.Perm p.entries) : fs.Perm (p.run calls).entries ∧ out = p.departures calls ∧
      snapshot fs = (p.run calls).snapshot := by
  induction hruns generalizing p with
  | nil hperm =>
    have hfs := hperm.symm.trans h
    exact ⟨hfs, rfl, snapshot_eq hfs⟩
  | @cons es fs gs c calls out hperm _ ih =>
    have hfs := hperm.symm.trans h
    obtain ⟨hrun, rfl, hsnapshot⟩ := ih (perm_take hfs c)
    exact ⟨hrun, by rw [departures, left_eq hfs], hsnapshot⟩

end Scattered

end Telemetry
