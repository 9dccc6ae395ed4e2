namespace Telemetry

/-!
# Frames that wait for their acknowledgement

* `PendingFrames` — frames by the number of their message, with the time of their sending.
* `insert`, `remove`, `evictExpired` — a frame comes in, is acknowledged, or grows too old.
* `snapshot` — the frames in ascending order of their numbers.

Times are nanoseconds of some clock.  Entries are kept in order, so that eviction and snapshot are
one pass each; a map in no order needs a sort after its passes, and shows the same.
-/

/-- A frame that was sent. -/
structure PendingFrame where
  id : Nat
  frame : String
  sentAt : Nat
deriving DecidableEq, Repr

/-- Frames in strictly ascending order of their numbers. -/
structure PendingFrames where
  entries : List PendingFrame
  sorted : entries.Pairwise fun a b => a.id < b.id

namespace PendingFrames

/-- No frames. -/
def empty : PendingFrames := ⟨[], .nil⟩

instance : Inhabited PendingFrames := ⟨empty⟩

/-- Puts an entry in its place; an entry of the same number is replaced. -/
def place (e : PendingFrame) : List PendingFrame → List PendingFrame
  | [] => [e]
  | f :: fs =>
    if e.id < f.id then e :: f :: fs
    else if e.id = f.id then e :: fs
    else f :: place e fs

/-- Nothing comes in but the entry. -/
theorem mem_place {e g : PendingFrame} {fs : List PendingFrame} (h : g ∈ place e fs) :
    g = e ∨ g ∈ fs := by
  induction fs with
  | nil => simp only [place, List.mem_singleton] at h; exact .inl h
  | cons f fs ih =>
    simp only [place] at h
    split at h
    · simpa using h
    · split at h
      · simp only [List.mem_cons] at h ⊢
        rcases h with h | h
        · exact .inl h
        · exact .inr (.inr h)
      · simp only [List.mem_cons] at h ⊢
        rcases h with h | h
        · exact .inr (.inl h)
        · rcases ih h with h | h
          · exact .inl h
          · exact .inr (.inr h)

/-- Entries stay in strictly ascending order. -/
theorem pairwise_place {e : PendingFrame} {fs : List PendingFrame}
    (h : fs.Pairwise fun a b => a.id < b.id) :
    (place e fs).Pairwise fun a b => a.id < b.id := by
  induction fs with
  | nil => simp [place]
  | cons f fs ih =>
    obtain ⟨hf, hfs⟩ := List.pairwise_cons.1 h
    simp only [place]
    split
    · rename_i hlt
      refine List.pairwise_cons.2 ⟨?_, h⟩
      intro g hg
      rcases List.mem_cons.1 hg with rfl | hg
      · exact hlt
      · exact Nat.lt_trans hlt (hf g hg)
    · split
      · rename_i heq
        refine List.pairwise_cons.2 ⟨fun g hg => ?_, hfs⟩
        rw [heq]; exact hf g hg
      · rename_i hnlt hne
        refine List.pairwise_cons.2 ⟨fun g hg => ?_, ih hfs⟩
        rcases mem_place hg with rfl | hg
        · omega
        · exact hf g hg

/-- Remembers a frame as sent at a time; an earlier frame of that number is replaced. -/
def insert (p : PendingFrames) (id : Nat) (frame : String) (now : Nat) : PendingFrames :=
  ⟨place ⟨id, frame, now⟩ p.entries, pairwise_place p.sorted⟩

/-- The frames that satisfy a condition. -/
def keep (p : PendingFrames) (f : PendingFrame → Bool) : PendingFrames :=
  ⟨p.entries.filter f, p.sorted.filter f⟩

/-- A frame of that number waits. -/
def contains (p : PendingFrames) (id : Nat) : Bool := p.entries.any (·.id == id)

/-- Forgets a frame, and tells whether it was there. -/
def remove (p : PendingFrames) (id : Nat) : Bool × PendingFrames :=
  (p.contains id, p.keep (·.id != id))

/-- The number of frames. -/
def size (p : PendingFrames) : Nat := p.entries.length

/-- No frame waits. -/
def isEmpty (p : PendingFrames) : Bool := p.entries.isEmpty

/-- A frame that was sent more than `timeout` before `now`. -/
def isExpired (timeout now : Nat) (e : PendingFrame) : Bool := decide (timeout < now - e.sentAt)

/-- Drops the frames that were sent more than `timeout` before `now`; their numbers come
    out in ascending order. -/
def evictExpired (p : PendingFrames) (timeout now : Nat) : List Nat × PendingFrames :=
  ((p.entries.filter (isExpired timeout now)).map (·.id), p.keep (!isExpired timeout now ·))

/-- The frames with their numbers, in ascending order. -/
def snapshot (p : PendingFrames) : List (Nat × String) := p.entries.map fun e => (e.id, e.frame)

end PendingFrames

end Telemetry
