import Mathlib.Data.List.Basic
import Mathlib.Data.List.Induction
import Telemetry.Ack.Lines

namespace Telemetry

/-!
# Lines, however the bytes are cut

A buffer of lines may be fed in pieces of any size and cleared at any time.  What it gives out
depends on the bytes since it was cleared and not on where they were cut.

* `AckLines.Splits` — bytes as segments that end with a line feed, and the rest; there is one way
  to split bytes (`Splits.unique`), and splitting goes on where it stopped (`Splits.append`).
* `AckLines.splits_cut` — the cut of a buffer splits its bytes.
* `AckLines.Session` — a buffer in use, with the bytes and the lines since it was cleared.
* `AckLines.Session.Sound` — the lines are those of the bytes, and the rest is held back;
  each call keeps this (`Sound.take`).
* `AckLines.Session.splits_run` — so it holds after any calls.
-/

namespace AckLines

/-! ### Segments -/

/-- Bytes are segments, each ended by a line feed, and a tail; no other line feed is there. -/
structure Splits (bytes : List UInt8) (segments : List (List UInt8)) (tail : List UInt8) :
    Prop where
  bytes_eq : bytes = segments.flatMap (· ++ [10]) ++ tail
  notMem_segment : ∀ s ∈ segments, 10 ∉ s
  notMem_tail : 10 ∉ tail

namespace Splits

variable {bytes more : List UInt8} {segments others : List (List UInt8)}
  {tail tail' : List UInt8}

/-- A first line is read off the bytes. -/
theorem line_inj {line line' rest rest' : List UInt8} (h : 10 ∉ line) (h' : 10 ∉ line')
    (heq : line ++ 10 :: rest = line' ++ 10 :: rest') : line = line' ∧ rest = rest' := by
  have hfront : ∀ {l r : List UInt8}, 10 ∉ l → (l ++ 10 :: r).takeWhile (· != 10) = l := by
    intro l r hl
    rw [List.takeWhile_append_of_pos (fun a ha => bne_iff_ne.2 (ne_of_mem_of_not_mem ha hl))]
    simp
  have hline : line = line' := by rw [← hfront (r := rest) h, heq, hfront h']
  subst hline
  exact ⟨rfl, (List.cons.inj (List.append_cancel_left heq)).2⟩

/-- Bytes without a line feed are a tail. -/
theorem of_notMem (h : 10 ∉ bytes) : Splits bytes [] bytes where
  bytes_eq := rfl
  notMem_segment := fun _ hs => absurd hs List.not_mem_nil
  notMem_tail := h

/-- One more line in front. -/
theorem cons {line : List UInt8} (hline : 10 ∉ line) (h : Splits bytes segments tail) :
    Splits (line ++ 10 :: bytes) (line :: segments) tail where
  bytes_eq := by
    rw [List.flatMap_cons, h.bytes_eq]
    simp
  notMem_segment := List.forall_mem_cons.2 ⟨hline, h.notMem_segment⟩
  notMem_tail := h.notMem_tail

/-- **Splitting goes on where it stopped:** the tail is the beginning of what comes next. -/
theorem append (h : Splits bytes segments tail) (h' : Splits (tail ++ more) others tail') :
    Splits (bytes ++ more) (segments ++ others) tail' where
  bytes_eq := by
    rw [h.bytes_eq, List.append_assoc, h'.bytes_eq, List.flatMap_append, List.append_assoc]
  notMem_segment := List.forall_mem_append.2 ⟨h.notMem_segment, h'.notMem_segment⟩
  notMem_tail := h'.notMem_tail

/-- **There is one way to split bytes.** -/
theorem unique (h : Splits bytes segments tail) (h' : Splits bytes others tail') :
    segments = others ∧ tail = tail' := by
  induction segments generalizing bytes others with
  | nil =>
    cases others with
    | nil => exact ⟨rfl, h.bytes_eq.symm.trans h'.bytes_eq⟩
    | cons line others =>
      have hmem : 10 ∈ tail := by
        show 10 ∈ [].flatMap (· ++ [10]) ++ tail
        rw [← h.bytes_eq, h'.bytes_eq]
        simp
      exact absurd hmem h.notMem_tail
  | cons line segments ih =>
    obtain ⟨hline, hsegments⟩ := List.forall_mem_cons.1 h.notMem_segment
    cases others with
    | nil =>
      have hmem : 10 ∈ tail' := by
        show 10 ∈ [].flatMap (· ++ [10]) ++ tail'
        rw [← h'.bytes_eq, h.bytes_eq]
        simp
      exact absurd hmem h'.notMem_tail
    | cons line' others =>
      obtain ⟨hline', hothers⟩ := List.forall_mem_cons.1 h'.notMem_segment
      -- Both begin with a line without a line feed, and so with the same one.
      have heq : line ++ 10 :: (segments.flatMap (· ++ [10]) ++ tail) =
          line' ++ 10 :: (others.flatMap (· ++ [10]) ++ tail') := by
        simpa using h.bytes_eq.symm.trans h'.bytes_eq
      obtain ⟨rfl, hrest⟩ := line_inj hline hline' heq
      obtain ⟨rfl, rfl⟩ := ih ⟨rfl, hsegments, h.notMem_tail⟩ ⟨hrest, hothers, h'.notMem_tail⟩
      exact ⟨rfl, rfl⟩

end Splits

/-- **The cut splits the bytes,** those of the unfinished line included. -/
theorem splits_cut (done : List (List UInt8)) {current : List UInt8} (h : 10 ∉ current)
    (bytes : List UInt8) : ∃ segments tail,
      cut done current bytes = (done.reverse ++ segments, tail) ∧
        Splits (current.reverse ++ bytes) segments tail := by
  induction bytes generalizing done current with
  | nil =>
    refine ⟨[], current.reverse, by rw [cut, List.append_nil], ?_⟩
    rw [List.append_nil]
    exact .of_notMem (by rwa [List.mem_reverse])
  | cons b bytes ih =>
    rw [cut]
    by_cases hb : b = 10
    · obtain ⟨segments, tail, hcut, hsplits⟩ := ih (current.reverse :: done) List.not_mem_nil
      refine ⟨current.reverse :: segments, tail, ?_, ?_⟩
      · rw [if_pos hb, hcut]
        simp
      · rw [hb]
        exact hsplits.cons (by rwa [List.mem_reverse])
    · have hcurrent : 10 ∉ b :: current := by
        rw [List.mem_cons, not_or]
        exact ⟨Ne.symm hb, h⟩
      obtain ⟨segments, tail, hcut, hsplits⟩ := ih done hcurrent
      refine ⟨segments, tail, by rw [if_neg hb, hcut], ?_⟩
      simpa using hsplits

/-! ### Sessions -/

/-- The lines of segments: those that are not empty, as text. -/
def linesOf (segments : List (List UInt8)) : List String :=
  (segments.filter (!·.isEmpty)).map Utf8.decodeLossy

theorem linesOf_append (segments others : List (List UInt8)) :
    linesOf (segments ++ others) = linesOf segments ++ linesOf others := by
  rw [linesOf, List.filter_append, List.map_append]
  rfl

/-- What feeding a buffer comes to. -/
theorem splits_feed (b : AckLines) (bytes : List UInt8) :
    ∃ segments, (b.feed bytes).1 = linesOf segments ∧
      Splits (b.held ++ bytes) segments (b.feed bytes).2.held := by
  obtain ⟨segments, tail, hcut, hsplits⟩ := splits_cut [] List.not_mem_nil (b.held ++ bytes)
  refine ⟨segments, ?_, ?_⟩
  · simp only [feed, hcut, List.reverse_nil, List.nil_append]
    rfl
  · rw [List.reverse_nil, List.nil_append] at hsplits
    simpa only [feed, hcut] using hsplits

/-- A call of a buffer. -/
inductive Call where
  | feed (bytes : List UInt8)
  | clear

/-- A buffer in use: the bytes that were fed since it was last cleared, and the lines that came
    out since then. -/
structure Session where
  buffer : AckLines := {}
  fed : List UInt8 := []
  lines : List String := []

namespace Session

/-- One call. -/
def take (s : Session) : Call → Session
  | .feed bytes =>
    let (lines, buffer) := s.buffer.feed bytes
    { buffer := buffer, fed := s.fed ++ bytes, lines := s.lines ++ lines }
  | .clear => { buffer := s.buffer.clear }

/-- Calls one after the other. -/
def run (s : Session) (calls : List Call) : Session := calls.foldl take s

theorem run_append_singleton (s : Session) (calls : List Call) (c : Call) :
    s.run (calls ++ [c]) = (s.run calls).take c := by
  rw [run, List.foldl_append]
  rfl

/-- Clearing makes a new session, whatever was fed before. -/
theorem run_clear (s : Session) (before after : List Call) :
    s.run (before ++ .clear :: after) = run {} after := by
  rw [run, List.foldl_append]
  rfl

/-- The lines are those of the bytes, and what follows the last line feed is held back. -/
def Sound (s : Session) : Prop :=
  ∃ segments, Splits s.fed segments s.buffer.held ∧ s.lines = linesOf segments

/-- Nothing was fed, so nothing waits for its line feed. -/
theorem Sound.start : Sound {} := ⟨[], .of_notMem List.not_mem_nil, rfl⟩

/-- **A call keeps a session sound.** -/
theorem Sound.take {s : Session} (h : s.Sound) (c : Call) : (s.take c).Sound := by
  cases c with
  | clear => exact .start
  | feed bytes =>
    obtain ⟨segments, hsplits, hlines⟩ := h
    obtain ⟨others, hothers, hmore⟩ := splits_feed s.buffer bytes
    refine ⟨segments ++ others, hsplits.append hmore, ?_⟩
    rw [linesOf_append, ← hlines, ← hothers]
    rfl

/-- Every session keeps what was fed since the last clear. -/
theorem sound_run (calls : List Call) : (run {} calls).Sound := by
  induction calls using List.reverseRecOn with
  | nil => exact .start
  | append_singleton calls c ih =>
    rw [run_append_singleton]
    exact ih.take c

/-- The bytes of a sound session determine it. -/
theorem Sound.eq_of_fed_eq {s t : Session} (hs : s.Sound) (ht : t.Sound) (h : s.fed = t.fed) :
    s = t := by
  obtain ⟨segments, hsplits, hlines⟩ := hs
  obtain ⟨others, hothers, hlines'⟩ := ht
  obtain ⟨rfl, htail⟩ := (h ▸ hsplits).unique hothers
  obtain ⟨⟨held⟩, fed, lines⟩ := s
  obtain ⟨⟨held'⟩, fed', lines'⟩ := t
  simp only at h hlines hlines' htail
  rw [h, hlines, hlines', htail]

/-- **Lines out of a byte stream.** Whatever calls a new buffer gets: the lines that came out since
    it was last cleared are the segments of the bytes that were fed since then, the empty ones left
    out, in order and as text, and the bytes after the last line feed are held back.

    So the same bytes give the same lines and the same rest, however they are cut into pieces, and
    after a buffer was cleared it is as if nothing had been fed before. -/
theorem splits_run (calls : List Call) :
    let s := run {} calls
    (∃ segments tail, Splits s.fed segments tail ∧
      s.lines = (segments.filter (!·.isEmpty)).map Utf8.decodeLossy ∧
      s.buffer.held = tail ∧ s.buffer.pending = tail.length) ∧
    (∀ others, (run {} others).fed = s.fed →
      (run {} others).lines = s.lines ∧ (run {} others).buffer = s.buffer) ∧
    (∀ after, run {} (calls ++ .clear :: after) = run {} after) := by
  intro s
  have hsound : s.Sound := sound_run calls
  refine ⟨?_, ?_, run_clear {} calls⟩
  · obtain ⟨segments, hsplits, hlines⟩ := hsound
    exact ⟨segments, s.buffer.held, hsplits, hlines, rfl, rfl⟩
  · intro others hfed
    rw [(sound_run others).eq_of_fed_eq hsound hfed]
    exact ⟨rfl, rfl⟩

/-- A line that is cut inside a character, and fed whole after a line that was given up. -/
theorem splits_run_two_cuts :
    let cut := run {} [.feed [0x68, 0xc3], .feed [], .feed [0xa9, 10]]
    let whole := run {} [.feed [0x68], .clear, .feed [0x68, 0xc3, 0xa9, 10]]
    cut.lines = whole.lines ∧ cut.buffer = whole.buffer := by
  apply (splits_run [.feed [0x68], .clear, .feed [0x68, 0xc3, 0xa9, 10]]).2.1
  rfl

end Session

end AckLines

end Telemetry
