import Telemetry.Transport.Sink

namespace Telemetry

/-!
# Pipes

A pipe takes a few bytes at each write, until it holds as many as it can, and then fails.  A text
reaches it in parts, each of which is written again and again until all of it is taken.

* `PipeKind`, `Pipe` — what is fixed about a pipe, and what has come of it.
* `Pipe.offer`, `Pipe.writeAll`, `Pipe.writeParts` — one write, all of some bytes, and one part
  after the other.
* `Pipe.Takes` — what becomes of bytes, however they are cut; `Pipe.Takes.trans`,
  `Pipe.Takes.of_error` — parts one after the other.
* `Pipe.takes_writeAll`, `Pipe.takes_write` — a pipe takes what fits, and fails exactly if that is
  not all.
-/

/-- What is fixed about a pipe: how many bytes it can hold; how many it takes at its n-th write, at
    most one more than `portion n`; the error of its n-th write when it is full; the answer to its
    n-th flush; and the parts in which a text reaches it. -/
structure PipeKind where
  capacity : Nat
  portion : Nat → Nat
  fault : Nat → String
  flushAnswer : Nat → Except String Unit
  cut : List UInt8 → List (List UInt8)
  flatten_cut : ∀ bytes, (cut bytes).flatten = bytes

/-- A pipe, the bytes it holds, and how often it was written to and flushed. -/
structure Pipe where
  kind : PipeKind
  held : List UInt8 := []
  writes : Nat := 0
  flushes : Nat := 0

namespace Pipe

/-! ### Writing -/

/-- One write: how many bytes were taken from the front, or the error of a full pipe. -/
def offer (p : Pipe) (bytes : List UInt8) : Except String Nat × Pipe :=
  if p.kind.capacity ≤ p.held.length then
    (.error (p.kind.fault p.writes), { p with writes := p.writes + 1 })
  else
    let room := p.kind.capacity - p.held.length
    let n := min (p.kind.portion p.writes + 1) (min room bytes.length)
    (.ok n, { p with held := p.held ++ bytes.take n, writes := p.writes + 1 })

/-- Writes until all bytes are taken.  No bytes are no write. -/
def writeAll (p : Pipe) (bytes : List UInt8) : Except String Unit × Pipe :=
  if _hbytes : bytes = [] then (.ok (), p)
  else
    match p.offer bytes with
    | (.error e, p) => (.error e, p)
    | (.ok n, p) =>
      if _hn : n = 0 then (.error "failed to write whole buffer", p) else p.writeAll (bytes.drop n)
termination_by bytes.length
decreasing_by
  have := List.length_pos_iff.2 _hbytes
  rw [List.length_drop]
  omega

/-- Writes one part after the other, up to the first failure. -/
def writeParts (p : Pipe) : List (List UInt8) → Except String Unit × Pipe
  | [] => (.ok (), p)
  | part :: parts =>
    match p.writeAll part with
    | (.ok _, p) => p.writeParts parts
    | (.error e, p) => (.error e, p)

/-- Flushes. -/
def flush (p : Pipe) : Except String Unit × Pipe :=
  (p.kind.flushAnswer p.flushes, { p with flushes := p.flushes + 1 })

instance : Sink Pipe where
  write p bytes := p.writeParts (p.kind.cut bytes)
  flush := flush

/-! ### What becomes of bytes -/

/-- The pipe comes to hold as many of the bytes as fit, and this succeeds exactly if all fit. -/
structure Takes (p : Pipe) (bytes : List UInt8) (r : Except String Unit × Pipe) : Prop where
  kind_eq : r.2.kind = p.kind
  flushes_eq : r.2.flushes = p.flushes
  held_eq : r.2.held = (p.held ++ bytes).take p.kind.capacity
  ok_iff : r.1 = .ok () ↔ (p.held ++ bytes).length ≤ p.kind.capacity

variable {p q : Pipe} {a b bytes : List UInt8} {r : Except String Unit × Pipe}

namespace Takes

theorem nil (h : p.held.length ≤ p.kind.capacity) : Takes p [] (.ok (), p) where
  kind_eq := rfl
  flushes_eq := rfl
  held_eq := by rw [List.append_nil, List.take_of_length_le h]
  ok_iff := by simp [h]

/-- A pipe never holds more than it can. -/
theorem length_held_le (h : Takes p bytes r) : r.2.held.length ≤ r.2.kind.capacity := by
  rw [h.held_eq, h.kind_eq, List.length_take]
  exact Nat.min_le_left _ _

/-- What goes on after a success goes on where that ended. -/
theorem trans (ha : Takes p a (.ok (), q)) (hb : Takes q b r) : Takes p (a ++ b) r := by
  have hheld : q.held = p.held ++ a := by rw [ha.held_eq, List.take_of_length_le (ha.ok_iff.1 rfl)]
  refine ⟨hb.kind_eq.trans ha.kind_eq, hb.flushes_eq.trans ha.flushes_eq, ?_, ?_⟩
  · rw [hb.held_eq, hheld, ha.kind_eq, List.append_assoc]
  · rw [hb.ok_iff, hheld, ha.kind_eq, List.append_assoc]

/-- After a failure the pipe is full, and more bytes change nothing. -/
theorem of_error {e : String} (ha : Takes p a (.error e, q)) (b : List UInt8) :
    Takes p (a ++ b) (.error e, q) := by
  have hlong : p.kind.capacity < (p.held ++ a).length := by
    refine Nat.lt_of_not_le fun hle => ?_
    cases ha.ok_iff.2 hle
  refine ⟨ha.kind_eq, ha.flushes_eq, ?_, ?_⟩
  · rw [ha.held_eq, ← List.append_assoc, List.take_append_of_le_length (Nat.le_of_lt hlong)]
  · refine iff_of_false (by simp) ?_
    rw [← List.append_assoc, List.length_append]
    omega

end Takes

/-! ### One write -/

/-- A full pipe fails a write that is not empty. -/
theorem offer_of_full (h : p.kind.capacity ≤ p.held.length) (bytes : List UInt8) :
    p.offer bytes = (.error (p.kind.fault p.writes), { p with writes := p.writes + 1 }) := if_pos h

/-- Any other pipe takes some bytes from the front, and these fit. -/
theorem exists_offer (h : p.held.length < p.kind.capacity) (hbytes : bytes ≠ []) :
    ∃ n q, p.offer bytes = (.ok n, q) ∧ n ≠ 0 ∧ Takes p (bytes.take n) (.ok (), q) := by
  have hpos := List.length_pos_iff.2 hbytes
  rw [offer, if_neg (Nat.not_le.2 h)]
  refine ⟨_, _, rfl, by omega, ⟨rfl, rfl, ?_, iff_of_true rfl ?_⟩⟩
  · refine (List.take_of_length_le ?_).symm
    rw [List.length_append, List.length_take]
    omega
  · rw [List.length_append, List.length_take]
    omega

/-! ### All bytes -/

/-- Writing again and again comes to what fits, by the number of bytes that are left. -/
theorem takes_writeAll (h : p.held.length ≤ p.kind.capacity) (bytes : List UInt8) :
    Takes p bytes (p.writeAll bytes) := by
  induction hlength : bytes.length using Nat.strongRecOn generalizing p bytes with
  | _ length ih =>
    rw [writeAll]
    by_cases hbytes : bytes = []
    · rw [dif_pos hbytes, hbytes]
      exact .nil h
    · rw [dif_neg hbytes]
      have hpos := List.length_pos_iff.2 hbytes
      rcases Nat.lt_or_ge p.held.length p.kind.capacity with hroom | hfull
      · -- Some bytes are taken, and the others are written where these ended.
        obtain ⟨n, q, hoffer, hn, htakes⟩ := exists_offer hroom hbytes
        have hrest := ih (bytes.drop n).length (by rw [List.length_drop]; omega)
          htakes.length_held_le (bytes.drop n) rfl
        simp only [hoffer, dif_neg hn]
        have htrans := htakes.trans hrest
        rwa [List.take_append_drop] at htrans
      · -- Nothing is taken, so the pipe holds what it held.
        rw [offer_of_full hfull]
        refine ⟨rfl, rfl, ?_, iff_of_false (by simp) ?_⟩
        · exact (List.take_left' (Nat.le_antisymm h hfull)).symm
        · rw [List.length_append]
          omega

/-- Parts come to what fits of them together. -/
theorem takes_writeParts (h : p.held.length ≤ p.kind.capacity) (parts : List (List UInt8)) :
    Takes p parts.flatten (p.writeParts parts) := by
  induction parts generalizing p with
  | nil => exact .nil h
  | cons part parts ih =>
    have htakes := takes_writeAll h part
    rw [List.flatten_cons, writeParts]
    rcases hwrite : p.writeAll part with ⟨_ | _, q⟩
    · -- The parts after a failure are not written, and they would not fit either.
      rw [hwrite] at htakes
      exact htakes.of_error _
    · rw [hwrite] at htakes
      exact htakes.trans (ih htakes.length_held_le)

/-- **A pipe takes what fits,** into however many parts and writes the bytes are cut. -/
theorem takes_write (h : p.held.length ≤ p.kind.capacity) (bytes : List UInt8) :
    Takes p bytes (Sink.write p bytes) := by
  have htakes := takes_writeParts h (p.kind.cut bytes)
  rwa [p.kind.flatten_cut] at htakes

end Pipe

end Telemetry
