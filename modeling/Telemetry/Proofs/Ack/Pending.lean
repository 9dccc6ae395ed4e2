import Mathlib.Data.List.Induction
import Mathlib.Data.List.Nodup
import Telemetry.Ack.Pending

namespace Telemetry

/-!
# What waits

Numbers of waiting frames are in strictly ascending order, so each number has one frame, and
which frames wait can be said without their order.  It is told by the calls so far.

* `Since` — something came, and all that followed satisfies a condition.
* `PendingFrames.inj_id` — entries of one number are one entry.
* `PendingFrames.mem_evictExpired`, `mem_fst_evictExpired` — which entries are not too old, and the
  numbers of those that are.
* `PendingFrames.mem_snapshot_insert`, `mem_snapshot_remove`, `mem_snapshot_evictExpired` —
  which frames wait after a frame came in, was acknowledged, or grew too old.
* `PendingFrames.mem_take` — what waits after one call; `PendingFrames.count_left` — what leaves
  in one call.
* `PendingFrames.evictExpired_run` — what waits, and what grows too old, after any calls.
-/

/-! ### Since -/

/-- Something in the list satisfies `p`, and all that follows it satisfies `q`. -/
def Since {α : Type} (p q : α → Prop) (xs : List α) : Prop :=
  ∃ before x after, xs = before ++ x :: after ∧ p x ∧ ∀ y ∈ after, q y

/-- What came in the first part counts only if all of the second part satisfies the condition. -/
theorem since_append {α : Type} {p q : α → Prop} {xs ys : List α} :
    Since p q (xs ++ ys) ↔ Since p q ys ∨ Since p q xs ∧ ∀ y ∈ ys, q y := by
  constructor
  · rintro ⟨before, x, after, h, hp, hq⟩
    rcases List.append_eq_append_iff.1 h with ⟨as, rfl, hys⟩ | ⟨bs, hxs, hafter⟩
    · exact .inl ⟨as, x, after, hys, hp, hq⟩
    · -- It lies at the end of `xs` or at the head of `ys`.
      cases bs with
      | nil => exact .inl ⟨[], x, after, hafter.symm, hp, hq⟩
      | cons b bs =>
        obtain ⟨rfl, rfl⟩ := List.cons.inj hafter
        exact .inr ⟨⟨before, x, bs, hxs, hp, fun y hy => hq y (List.mem_append_left _ hy)⟩,
          fun y hy => hq y (List.mem_append_right _ hy)⟩
  · rintro (⟨before, x, after, rfl, hp, hq⟩ | ⟨⟨before, x, after, rfl, hp, hq⟩, hys⟩)
    · exact ⟨xs ++ before, x, after, (List.append_assoc _ _ _).symm, hp, hq⟩
    · refine ⟨before, x, after ++ ys, List.append_assoc _ _ _, hp, fun y hy => ?_⟩
      rcases List.mem_append.1 hy with hy | hy
      · exact hq y hy
      · exact hys y hy

theorem since_singleton {α : Type} {p q : α → Prop} {x : α} : Since p q [x] ↔ p x := by
  constructor
  · rintro ⟨before, y, after, h, hp, -⟩
    have hlength := congrArg List.length h
    simp only [List.length_cons, List.length_nil, List.length_append] at hlength
    obtain rfl : before = [] := List.length_eq_zero_iff.1 (by omega)
    rw [(List.cons.inj h).1]
    exact hp
  · intro hp
    exact ⟨[], x, [], rfl, hp, fun y hy => absurd hy List.not_mem_nil⟩

namespace PendingFrames

/-! ### As a set -/

/-- Entries of one number are one entry. -/
theorem inj_id (p : PendingFrames) {e f : PendingFrame} (he : e ∈ p.entries)
    (hf : f ∈ p.entries) (h : e.id = f.id) : e = f := by
  have hnodup : (p.entries.map (·.id)).Nodup :=
    List.pairwise_map.2 (p.sorted.imp fun hlt => Nat.ne_of_lt hlt)
  exact List.inj_on_of_nodup_map hnodup he hf h

/-- An entry put in its place is there, and of the others those of another number. -/
theorem mem_place_iff {e g : PendingFrame} {fs : List PendingFrame}
    (h : fs.Pairwise fun a b => a.id < b.id) :
    g ∈ place e fs ↔ g = e ∨ g ∈ fs ∧ g.id ≠ e.id := by
  induction fs with
  | nil => simp [place]
  | cons f fs ih =>
    obtain ⟨hf, hfs⟩ := List.pairwise_cons.1 h
    rw [place]
    by_cases hlt : e.id < f.id
    · -- The entry comes before all others.
      have hother : ∀ g ∈ f :: fs, g.id ≠ e.id := by
        intro g hg
        rcases List.mem_cons.1 hg with rfl | hg
        · exact Nat.ne_of_gt hlt
        · exact Nat.ne_of_gt (Nat.lt_trans hlt (hf g hg))
      rw [if_pos hlt, List.mem_cons]
      exact or_congr_right ⟨fun hg => ⟨hg, hother g hg⟩, And.left⟩
    · by_cases heq : e.id = f.id
      · -- The entry replaces that of its number.
        have hother : ∀ g ∈ fs, g.id ≠ e.id := fun g hg => heq ▸ Nat.ne_of_gt (hf g hg)
        rw [if_neg hlt, if_pos heq, List.mem_cons, List.mem_cons]
        constructor
        · rintro (rfl | hg)
          · exact .inl rfl
          · exact .inr ⟨.inr hg, hother g hg⟩
        · rintro (rfl | ⟨rfl | hg, hne⟩)
          · exact .inl rfl
          · exact absurd heq.symm hne
          · exact .inr hg
      · -- The entry comes after the first one.
        have hne : f.id ≠ e.id := Ne.symm heq
        rw [if_neg hlt, if_neg heq, List.mem_cons, List.mem_cons, ih hfs]
        constructor
        · rintro (rfl | rfl | ⟨hg, hid⟩)
          · exact .inr ⟨.inl rfl, hne⟩
          · exact .inl rfl
          · exact .inr ⟨.inr hg, hid⟩
        · rintro (rfl | ⟨rfl | hg, hid⟩)
          · exact .inr (.inl rfl)
          · exact .inl rfl
          · exact .inr (.inr ⟨hg, hid⟩)

/-- A frame has grown too old when it was sent more than the timeout ago. -/
theorem isExpired_iff {timeout now : Nat} {e : PendingFrame} :
    isExpired timeout now e = true ↔ e.sentAt + timeout < now := by
  rw [isExpired, decide_eq_true_eq]
  omega

/-- What is not too old stays. -/
theorem mem_evictExpired {p : PendingFrames} {timeout now : Nat} {e : PendingFrame} :
    e ∈ (p.evictExpired timeout now).2.entries ↔ e ∈ p.entries ∧ now ≤ e.sentAt + timeout := by
  have hkept : (!isExpired timeout now e) = true ↔ now ≤ e.sentAt + timeout := by
    rw [Bool.not_eq_true', ← Bool.not_eq_true, isExpired_iff, Nat.not_lt]
  exact List.mem_filter.trans (and_congr_right fun _ => hkept)

/-- The numbers of what is too old come out. -/
theorem mem_fst_evictExpired {p : PendingFrames} {timeout now id : Nat} :
    id ∈ (p.evictExpired timeout now).1 ↔
      ∃ e ∈ p.entries, e.id = id ∧ e.sentAt + timeout < now := by
  simp only [evictExpired, List.mem_map, List.mem_filter, isExpired_iff, and_assoc, and_comm]

/-- A snapshot lists the entries without their times. -/
theorem mem_snapshot {p : PendingFrames} {id : Nat} {frame : String} :
    (id, frame) ∈ p.snapshot ↔ ∃ e ∈ p.entries, e.id = id ∧ e.frame = frame := by
  simp [snapshot]

/-- A frame that comes in waits, and so do the others of another number. -/
theorem mem_snapshot_insert {p : PendingFrames} {id i : Nat} {frame f : String} {now : Nat} :
    (i, f) ∈ (p.insert id frame now).snapshot ↔
      i = id ∧ f = frame ∨ i ≠ id ∧ (i, f) ∈ p.snapshot := by
  rw [mem_snapshot, mem_snapshot]
  constructor
  · rintro ⟨e, he, rfl, rfl⟩
    rcases (mem_place_iff p.sorted).1 he with rfl | ⟨he, hne⟩
    · exact .inl ⟨rfl, rfl⟩
    · exact .inr ⟨hne, e, he, rfl, rfl⟩
  · rintro (⟨rfl, rfl⟩ | ⟨hne, e, he, rfl, rfl⟩)
    · exact ⟨_, (mem_place_iff p.sorted).2 (.inl rfl), rfl, rfl⟩
    · exact ⟨e, (mem_place_iff p.sorted).2 (.inr ⟨he, hne⟩), rfl, rfl⟩

/-- The frames of the other numbers go on waiting. -/
theorem mem_snapshot_remove {p : PendingFrames} {id i : Nat} {f : String} :
    (i, f) ∈ (p.remove id).2.snapshot ↔ i ≠ id ∧ (i, f) ∈ p.snapshot := by
  rw [mem_snapshot, mem_snapshot]
  constructor
  · rintro ⟨e, he, rfl, rfl⟩
    obtain ⟨he, hne⟩ := List.mem_filter.1 he
    exact ⟨bne_iff_ne.1 hne, e, he, rfl, rfl⟩
  · rintro ⟨hne, e, he, rfl, rfl⟩
    exact ⟨e, List.mem_filter.2 ⟨he, bne_iff_ne.2 hne⟩, rfl, rfl⟩

/-- The frames whose numbers did not come out go on waiting. -/
theorem mem_snapshot_evictExpired {p : PendingFrames} {timeout now i : Nat} {f : String} :
    (i, f) ∈ (p.evictExpired timeout now).2.snapshot ↔
      i ∉ (p.evictExpired timeout now).1 ∧ (i, f) ∈ p.snapshot := by
  rw [mem_snapshot, mem_snapshot]
  constructor
  · rintro ⟨e, he, rfl, rfl⟩
    obtain ⟨he, hyoung⟩ := mem_evictExpired.1 he
    refine ⟨fun hout => ?_, e, he, rfl, rfl⟩
    obtain ⟨g, hg, hid, hold⟩ := mem_fst_evictExpired.1 hout
    rw [p.inj_id hg he hid] at hold
    exact absurd hyoung (Nat.not_le.2 hold)
  · rintro ⟨hout, e, he, rfl, rfl⟩
    refine ⟨e, mem_evictExpired.2 ⟨he, Nat.le_of_not_lt fun hold => ?_⟩, rfl, rfl⟩
    exact hout (mem_fst_evictExpired.2 ⟨e, he, rfl, hold⟩)

/-! ### By the calls so far -/

/-- A call that may change what waits. -/
inductive Call where
  | insert (id : Nat) (frame : String) (now : Nat)
  | remove (id : Nat)
  | evictExpired (timeout now : Nat)

namespace Call

/-- A frame of that number comes in. -/
def Inserts (id : Nat) : Call → Prop
  | insert i _ _ => i = id
  | _ => False

/-- The entry comes in. -/
def Brings (e : PendingFrame) (c : Call) : Prop := c = insert e.id e.frame e.sentAt

/-- The entry stays: the call is about another number, or the entry is not too old. -/
def Spares (e : PendingFrame) : Call → Prop
  | insert id _ _ | remove id => e.id ≠ id
  | evictExpired timeout now => now ≤ e.sentAt + timeout

end Call

/-- What waits after a call. -/
def take (p : PendingFrames) : Call → PendingFrames
  | .insert id frame now => p.insert id frame now
  | .remove id => (p.remove id).2
  | .evictExpired timeout now => (p.evictExpired timeout now).2

/-- The numbers that leave in a call, as it reports them. -/
def left (p : PendingFrames) : Call → List Nat
  | .insert _ _ _ => []
  | .remove id => if (p.remove id).1 then [id] else []
  | .evictExpired timeout now => (p.evictExpired timeout now).1

/-- What waits after calls one after the other. -/
def run (p : PendingFrames) (calls : List Call) : PendingFrames := calls.foldl take p

/-- The numbers that leave in calls one after the other. -/
def departures (p : PendingFrames) : List Call → List Nat
  | [] => []
  | c :: calls => p.left c ++ (p.take c).departures calls

theorem run_append_singleton (p : PendingFrames) (calls : List Call) (c : Call) :
    p.run (calls ++ [c]) = (p.run calls).take c := by
  rw [run, List.foldl_append]
  rfl

theorem contains_iff {p : PendingFrames} {id : Nat} :
    p.contains id = true ↔ ∃ e ∈ p.entries, e.id = id := by
  simp [contains]

/-- **What waits after a call:** the entry that came in, and those that the call spares. -/
theorem mem_take {p : PendingFrames} {c : Call} {e : PendingFrame} :
    e ∈ (p.take c).entries ↔ c.Brings e ∨ e ∈ p.entries ∧ c.Spares e := by
  cases c with
  | insert id frame now =>
    have hbrings : (Call.insert id frame now).Brings e ↔ e = ⟨id, frame, now⟩ := by
      obtain ⟨i, f, t⟩ := e
      simp only [Call.Brings, Call.insert.injEq, PendingFrame.mk.injEq, eq_comm]
    rw [hbrings]
    exact mem_place_iff p.sorted
  | remove id =>
    have hnever : ¬ (Call.remove id).Brings e := by simp [Call.Brings]
    simp only [hnever, false_or, Call.Spares]
    exact List.mem_filter.trans (and_congr_right fun _ => bne_iff_ne)
  | evictExpired timeout now =>
    have hnever : ¬ (Call.evictExpired timeout now).Brings e := by simp [Call.Brings]
    simp only [hnever, false_or, Call.Spares]
    exact mem_evictExpired

/-- **What waits after any calls:** what came in and was spared since. -/
theorem mem_run (calls : List Call) (e : PendingFrame) :
    e ∈ (empty.run calls).entries ↔ Since (Call.Brings e) (Call.Spares e) calls := by
  induction calls using List.reverseRecOn with
  | nil =>
    refine ⟨fun he => absurd he List.not_mem_nil, ?_⟩
    rintro ⟨before, c, after, h, -, -⟩
    simp at h
  | append_singleton calls c ih =>
    rw [run_append_singleton, mem_take, ih, since_append, since_singleton]
    simp

/-! ### Departures -/

variable {p : PendingFrames} {c : Call} {id : Nat}

/-- Numbers leave in strictly ascending order. -/
theorem pairwise_left (p : PendingFrames) (c : Call) : (p.left c).Pairwise (· < ·) := by
  cases c with
  | insert id frame now => exact .nil
  | remove id =>
    rw [left]
    split
    · exact List.pairwise_singleton _ _
    · exact .nil
  | evictExpired timeout now => exact List.pairwise_map.2 (p.sorted.filter _)

/-- What leaves is what was there and is not spared. -/
theorem mem_left (h : ¬ c.Inserts id) :
    id ∈ p.left c ↔ ∃ e ∈ p.entries, e.id = id ∧ ¬ c.Spares e := by
  cases c with
  | insert i frame now =>
    refine ⟨fun hid => absurd hid List.not_mem_nil, ?_⟩
    rintro ⟨e, -, rfl, hgone⟩
    exact absurd (not_not.1 hgone).symm h
  | remove i =>
    have hleft : id ∈ p.left (.remove i) ↔ p.contains i = true ∧ id = i := by
      simp only [left, remove]
      by_cases hi : p.contains i = true <;> simp [hi]
    rw [hleft, contains_iff]
    constructor
    · rintro ⟨⟨e, he, rfl⟩, rfl⟩
      exact ⟨e, he, rfl, fun hne => hne rfl⟩
    · rintro ⟨e, he, rfl, hgone⟩
      exact ⟨⟨e, he, not_not.1 hgone⟩, not_not.1 hgone⟩
  | evictExpired timeout now =>
    simp only [Call.Spares, Nat.not_le]
    exact mem_fst_evictExpired

/-- What stays of a number that does not come in. -/
theorem contains_take (h : ¬ c.Inserts id) :
    (p.take c).contains id = true ↔ ∃ e ∈ p.entries, e.id = id ∧ c.Spares e := by
  rw [contains_iff]
  constructor
  · rintro ⟨e, he, rfl⟩
    rcases mem_take.1 he with hbrings | ⟨he, hspares⟩
    · rw [hbrings] at h
      exact absurd rfl h
    · exact ⟨e, he, rfl, hspares⟩
  · rintro ⟨e, he, rfl, hspares⟩
    exact ⟨e, mem_take.2 (.inr ⟨he, hspares⟩), rfl⟩

/-- **What leaves no longer waits,** and what does not leave goes on waiting. -/
theorem count_left (h : ¬ c.Inserts id) :
    (p.left c).count id + ((p.take c).contains id).toNat = (p.contains id).toNat := by
  have hnodup : (p.left c).Nodup := (pairwise_left p c).imp Nat.ne_of_lt
  rw [hnodup.count]
  by_cases hwaits : ∃ e ∈ p.entries, e.id = id
  · obtain ⟨e, he, rfl⟩ := hwaits
    -- The entry is the only one of its number.
    have honly : ∀ q : PendingFrame → Prop,
        (∃ f ∈ p.entries, f.id = e.id ∧ q f) ↔ q e := fun q =>
      ⟨fun ⟨f, hf, hid, hq⟩ => p.inj_id hf he hid ▸ hq, fun hq => ⟨e, he, rfl, hq⟩⟩
    have hleft := (mem_left (p := p) h).trans (honly _)
    have htake := (contains_take (p := p) h).trans (honly _)
    rw [contains_iff.2 ⟨e, he, rfl⟩]
    by_cases hspares : c.Spares e
    · rw [if_neg (fun hid => hleft.1 hid hspares), htake.2 hspares, Nat.zero_add]
    · rw [if_pos (hleft.2 hspares), Bool.eq_false_iff.2 (fun hid => hspares (htake.1 hid))]
      rfl
  · have hleft : id ∉ p.left c := fun hid => by
      obtain ⟨e, he, heq, -⟩ := (mem_left h).1 hid
      exact hwaits ⟨e, he, heq⟩
    have htake : (p.take c).contains id = false := Bool.eq_false_iff.2 fun hid => by
      obtain ⟨e, he, heq, -⟩ := (contains_take h).1 hid
      exact hwaits ⟨e, he, heq⟩
    rw [if_neg hleft, htake, Bool.eq_false_iff.2 (mt contains_iff.1 hwaits), Nat.zero_add]

/-- A number that does not come in again leaves once if it waited and no longer does, and else
    never. -/
theorem count_departures (p : PendingFrames) {calls : List Call}
    (h : ∀ c ∈ calls, ¬ c.Inserts id) :
    (p.departures calls).count id + ((p.run calls).contains id).toNat =
      (p.contains id).toNat := by
  induction calls generalizing p with
  | nil => rw [departures, List.count_nil, Nat.zero_add]; rfl
  | cons c calls ih =>
    obtain ⟨hc, hcalls⟩ := List.forall_mem_cons.1 h
    have hrest : ((p.take c).departures calls).count id +
        ((p.run (c :: calls)).contains id).toNat = ((p.take c).contains id).toNat :=
      ih (p.take c) hcalls
    rw [departures, List.count_append, Nat.add_assoc, hrest, count_left hc]

/-- **What waits, and what grows too old.** Let frames come in, be acknowledged and be dropped for
    their age, in any order; a frame that comes in replaces an earlier one of its number.

    Then an entry waits exactly if it came in and no call since then was about its number or found
    it too old.  The snapshot lists what waits in strictly ascending order, and the number of frames
    and the answers about one number agree with it.

    What is dropped for its age are exactly the entries that came in more than the timeout ago;
    their numbers come out in strictly ascending order, and the other entries stay as they are.
    Until it comes in again, a number leaves at most once, and exactly if it does not wait any
    longer. -/
theorem evictExpired_run (calls : List Call) :
    let p := empty.run calls
    (∀ e, e ∈ p.entries ↔ Since (Call.Brings e) (Call.Spares e) calls) ∧
    (p.snapshot.map Prod.fst).Pairwise (· < ·) ∧
    (∀ id frame, (id, frame) ∈ p.snapshot ↔ ∃ e ∈ p.entries, e.id = id ∧ e.frame = frame) ∧
    p.size = p.snapshot.length ∧
    (∀ id, p.contains id = true ↔ ∃ e ∈ p.entries, e.id = id) ∧
    (∀ id, (p.remove id).1 = true ↔ ∃ e ∈ p.entries, e.id = id) ∧
    (∀ timeout now,
      (p.evictExpired timeout now).1.Pairwise (· < ·) ∧
      (∀ id, id ∈ (p.evictExpired timeout now).1 ↔
        ∃ e ∈ p.entries, e.id = id ∧ e.sentAt + timeout < now) ∧
      ∀ e, e ∈ (p.evictExpired timeout now).2.entries ↔
        e ∈ p.entries ∧ ¬ e.sentAt + timeout < now) ∧
    (∀ later id, (∀ c ∈ later, ¬ c.Inserts id) →
      (p.departures later).count id + ((p.run later).contains id).toNat =
        (p.contains id).toNat) := by
  intro p
  refine ⟨mem_run calls, ?_, fun _ _ => mem_snapshot, ?_, fun _ => contains_iff,
    fun _ => contains_iff, fun timeout now => ⟨?_, fun _ => mem_fst_evictExpired, fun e => ?_⟩,
    fun _ _ => count_departures p⟩
  · rw [snapshot, List.map_map]
    exact List.pairwise_map.2 p.sorted
  · rw [size, snapshot, List.length_map]
  · exact pairwise_left p (.evictExpired timeout now)
  · rw [mem_evictExpired, Nat.not_lt]

/-- A frame is sent again, so that it is young when the other one grows too old; the other one
    leaves, and is then acknowledged too late. -/
theorem evictExpired_run_late_ack :
    let p := empty.run [.insert 1 "a" 0, .insert 2 "b" 5, .insert 1 "c" 10]
    let later : List Call := [.evictExpired 5 11, .remove 2]
    (p.evictExpired 5 11).1 = [2] ∧ (∀ c ∈ later, ¬ c.Inserts 2) ∧
      (p.departures later).count 2 = 1 := by
  intro p later
  have hnot : ∀ c ∈ later, ¬ c.Inserts 2 := by simp [later, Call.Inserts]
  obtain ⟨-, -, -, -, -, -, -, hdepart⟩ :=
    evictExpired_run [.insert 1 "a" 0, .insert 2 "b" 5, .insert 1 "c" 10]
  refine ⟨by decide, hnot, ?_⟩
  have hwaited : p.contains 2 = true := by decide
  have hwaits : (p.run later).contains 2 = false := by decide
  have hcount := hdepart later 2 hnot
  rwa [hwaits, hwaited] at hcount

end PendingFrames

end Telemetry
