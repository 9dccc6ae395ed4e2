import Mathlib.Data.List.Forall2
import Mathlib.Data.List.ReduceOption
import Telemetry.Event.Reader
import Telemetry.Proofs.Ack.Lines
import Telemetry.Proofs.Text.Utf8

namespace Telemetry.Event

/-!
# Events, line by line

JSON input is read a line at a time, and the first line that cannot be read ends the reading.

* `wholeLines` — the lines of bytes that were split; `splitLines_eq` — these are the lines that are
  read.
* `LineHolds`, `LineFails` — what there is to read in a line, and why it cannot be read; each line
  is one or the other (`holds_or_fails`).
* `readFrom_of_holds`, `readFrom_of_fails` — what lines in front of others come to.
* `readLines_eq_ok_iff`, `readLines_eq_error_iff` — all events, or the first line that fails.
* `readLines_append` — input may be cut after a line feed.
-/

open AckLines (Splits)

/-! ### Lines -/

/-- A line without the carriage return at its end. -/
def chomp (line : List UInt8) : List UInt8 :=
  if line.getLast? = some 13 then line.dropLast else line

/-- The lines of bytes that were split: the segments, chomped, and the tail if it is not empty. -/
def wholeLines (segments : List (List UInt8)) (tail : List UInt8) : List (List UInt8) :=
  segments.map chomp ++ if tail = [] then [] else [tail]

/-- Only one carriage return is taken off a line. -/
theorem endLine_eq_chomp (current : List UInt8) : endLine current = chomp current.reverse := by
  unfold endLine
  split
  · rename_i current
    simp [chomp]
  · rename_i current hne
    -- The line so far is reversed, so its last byte stands first.
    rw [chomp, if_neg]
    rw [List.getLast?_reverse]
    intro hhead
    obtain ⟨rest, rfl⟩ := List.head?_eq_some_iff.1 hhead
    exact hne rest rfl

/-- Lines are cut where segments are. -/
theorem splitAfter_eq_cut (done : List (List UInt8)) (current bytes : List UInt8) :
    splitAfter (done.map chomp) current bytes =
      wholeLines (AckLines.cut done current bytes).1 (AckLines.cut done current bytes).2 := by
  induction bytes generalizing done current with
  | nil =>
    cases current with
    | nil => simp [splitAfter, AckLines.cut, wholeLines]
    | cons b current => simp [splitAfter, AckLines.cut, wholeLines]
  | cons b bytes ih =>
    rw [splitAfter, AckLines.cut]
    by_cases hb : b = 10
    · rw [if_pos hb, if_pos hb, endLine_eq_chomp]
      exact ih (current.reverse :: done) []
    · rw [if_neg hb, if_neg hb]
      exact ih done (b :: current)

/-- **The lines that are read,** for the one way to split the bytes. -/
theorem splitLines_eq {bytes tail : List UInt8} {segments : List (List UInt8)}
    (h : Splits bytes segments tail) : splitLines bytes = wholeLines segments tail := by
  obtain ⟨segments', tail', hcut, hsplits⟩ := AckLines.splits_cut [] List.not_mem_nil bytes
  obtain ⟨rfl, rfl⟩ := h.unique hsplits
  have hlines := splitAfter_eq_cut [] [] bytes
  rwa [hcut] at hlines

/-- All bytes can be split at their line feeds. -/
theorem exists_splits (bytes : List UInt8) : ∃ segments tail, Splits bytes segments tail := by
  obtain ⟨segments, tail, -, hsplits⟩ := AckLines.splits_cut [] List.not_mem_nil bytes
  exact ⟨segments, tail, hsplits⟩

/-- There are as many segments as line feeds. -/
theorem count_eq_length {bytes tail : List UInt8} {segments : List (List UInt8)}
    (h : Splits bytes segments tail) : bytes.count 10 = segments.length := by
  obtain ⟨rfl, hsegments, htail⟩ := h
  rw [List.count_append, List.count_eq_zero.2 htail, Nat.add_zero]
  induction segments with
  | nil => rfl
  | cons s segments ih =>
    obtain ⟨hs, hsegments⟩ := List.forall_mem_cons.1 hsegments
    rw [List.flatMap_cons, List.count_append, List.count_append, List.count_eq_zero.2 hs,
      ih hsegments, List.length_cons, Nat.add_comm]
    rfl

/-- No tail is left when a line feed is last. -/
theorem splits_of_ends {bytes : List UInt8} (h : bytes = [] ∨ bytes.getLast? = some 10) :
    ∃ segments, Splits bytes segments [] := by
  obtain ⟨segments, tail, hsplits⟩ := exists_splits bytes
  cases htail : tail.getLast? with
  | none =>
    rw [List.getLast?_eq_none_iff.1 htail] at hsplits
    exact ⟨segments, hsplits⟩
  | some b =>
    -- The tail would end the bytes, and with a byte that is no line feed.
    have hlast : bytes.getLast? = some b := by
      rw [hsplits.bytes_eq, List.getLast?_append, htail]
      rfl
    rcases h with rfl | h
    · cases hlast
    · obtain rfl : b = 10 := Option.some.inj (hlast.symm.trans h)
      exact absurd (List.mem_of_getLast? htail) hsplits.notMem_tail

/-! ### One line -/

/-- The text has white space only. -/
def Blank (s : String) : Prop := ∀ c ∈ s.toList, Text.isBlank c = true

/-- What there is to read in a line: nothing, as it is blank, or an event. -/
inductive LineHolds : List UInt8 → Option Event → Prop
  | blank {s : String} (hblank : Blank s) : LineHolds (Utf8.encode s) none
  | event {s : String} {e : Event} (hmark : ¬ Blank s) (hevent : ofJson? s.toList = some e) :
    LineHolds (Utf8.encode s) (some e)

/-- Why the line of this number cannot be read: it is no text, or no event. -/
inductive LineFails (number : Nat) : List UInt8 → ReadError → Prop
  | unreadable {line : List UInt8} (htext : ∀ s, Utf8.encode s ≠ line) :
    LineFails number line .unreadable
  | invalid {s : String} (hmark : ¬ Blank s) (hevent : ofJson? s.toList = none) :
    LineFails number (Utf8.encode s) (.line number)

theorem all_isBlank_iff {s : String} : s.toList.all Text.isBlank = true ↔ Blank s :=
  List.all_eq_true

theorem readLine_of_holds {number : Nat} {line : List UInt8} {r : Option Event}
    (h : LineHolds line r) : readLine number line = .ok r := by
  cases h with
  | blank hblank => simp only [readLine, Utf8.decode?_encode, if_pos (all_isBlank_iff.2 hblank)]
  | event hmark hevent =>
    simp only [readLine, Utf8.decode?_encode, if_neg (mt all_isBlank_iff.1 hmark), hevent]

theorem readLine_of_fails {number : Nat} {line : List UInt8} {err : ReadError}
    (h : LineFails number line err) : readLine number line = .error err := by
  cases h with
  | unreadable htext => simp only [readLine, Utf8.decode?_eq_none_iff.2 htext]
  | invalid hmark hevent =>
    simp only [readLine, Utf8.decode?_encode, if_neg (mt all_isBlank_iff.1 hmark), hevent]

/-- Each line can be read or not. -/
theorem holds_or_fails (number : Nat) (line : List UInt8) :
    (∃ r, LineHolds line r) ∨ ∃ err, LineFails number line err := by
  by_cases htext : ∃ s, Utf8.encode s = line
  · obtain ⟨s, rfl⟩ := htext
    by_cases hblank : Blank s
    · exact .inl ⟨none, .blank hblank⟩
    · cases hevent : ofJson? s.toList with
      | none => exact .inr ⟨.line number, .invalid hblank hevent⟩
      | some e => exact .inl ⟨some e, .event hblank hevent⟩
  · exact .inr ⟨.unreadable, .unreadable (not_exists.1 htext)⟩

/-! ### Lines one after the other -/

/-- Lines that can be read are read, and reading goes on. -/
theorem readFrom_of_holds {done : List Event} {number : Nat} {before after : List (List UInt8)}
    {held : List (Option Event)} (h : List.Forall₂ LineHolds before held) :
    readFrom done number (before ++ after) =
      readFrom (held.reduceOption.reverse ++ done) (number + before.length) after := by
  induction h generalizing done number with
  | nil => rfl
  | @cons line r before held hline _ ih =>
    rw [List.cons_append, readFrom, readLine_of_holds hline, List.length_cons,
      Nat.add_comm before.length, ← Nat.add_assoc]
    cases r with
    | none =>
      rw [List.reduceOption_cons_of_none]
      exact ih
    | some e =>
      rw [List.reduceOption_cons_of_some, List.reverse_cons, List.append_assoc]
      exact ih

/-- A line that cannot be read ends the reading. -/
theorem readFrom_of_fails {done : List Event} {number : Nat} {line : List UInt8} {err : ReadError}
    (h : LineFails number line err) (after : List (List UInt8)) :
    readFrom done number (line :: after) = .error err := by
  rw [readFrom, readLine_of_fails h]

/-- The first line that fails, after lines that hold what they hold. -/
def FirstFails (number : Nat) (lines : List (List UInt8)) (err : ReadError) : Prop :=
  ∃ before line after held, lines = before ++ line :: after ∧
    List.Forall₂ LineHolds before held ∧ LineFails (number + before.length) line err

/-- All lines can be read, or there is a first that cannot. -/
theorem all_hold_or_first_fails (number : Nat) (lines : List (List UInt8)) :
    (∃ held, List.Forall₂ LineHolds lines held) ∨ ∃ err, FirstFails number lines err := by
  induction lines generalizing number with
  | nil => exact .inl ⟨[], .nil⟩
  | cons line lines ih =>
    rcases holds_or_fails number line with ⟨r, hline⟩ | ⟨err, hline⟩
    · rcases ih (number + 1) with ⟨held, hlines⟩ | ⟨err, before, l, after, held, rfl, hbefore, hl⟩
      · exact .inl ⟨r :: held, .cons hline hlines⟩
      · -- One line more stands before it, and the count began one lower.
        refine .inr ⟨err, line :: before, l, after, r :: held, rfl, .cons hline hbefore, ?_⟩
        rwa [List.length_cons, Nat.add_comm before.length, ← Nat.add_assoc]
    · exact .inr ⟨err, [], line, lines, [], rfl, .nil, hline⟩

/-- If all lines can be read, their events come out. -/
theorem readFrom_of_all_hold {number : Nat} {lines : List (List UInt8)}
    {held : List (Option Event)} (h : List.Forall₂ LineHolds lines held) :
    readFrom [] number lines = .ok held.reduceOption := by
  have hread : readFrom [] number (lines ++ []) =
      readFrom (held.reduceOption.reverse ++ []) (number + lines.length) [] := readFrom_of_holds h
  rwa [List.append_nil, List.append_nil, readFrom, List.reverse_reverse] at hread

/-- The first line that fails decides, whatever follows it. -/
theorem readFrom_of_first_fails {number : Nat} {lines : List (List UInt8)} {err : ReadError}
    (h : FirstFails number lines err) : readFrom [] number lines = .error err := by
  obtain ⟨before, line, after, held, rfl, hbefore, hline⟩ := h
  rw [readFrom_of_holds hbefore]
  exact readFrom_of_fails hline after

/-- **Events are those of all lines,** in order. -/
theorem readFrom_eq_ok_iff {number : Nat} {lines : List (List UInt8)} {es : List Event} :
    readFrom [] number lines = .ok es ↔
      ∃ held, List.Forall₂ LineHolds lines held ∧ held.reduceOption = es := by
  constructor
  · intro hread
    rcases all_hold_or_first_fails number lines with ⟨held, hheld⟩ | ⟨err, hfails⟩
    · rw [readFrom_of_all_hold hheld] at hread
      exact ⟨held, hheld, Except.ok.inj hread⟩
    · rw [readFrom_of_first_fails hfails] at hread
      cases hread
  · rintro ⟨held, hheld, rfl⟩
    exact readFrom_of_all_hold hheld

/-- **An error is that of the first line that fails.** -/
theorem readFrom_eq_error_iff {number : Nat} {lines : List (List UInt8)} {err : ReadError} :
    readFrom [] number lines = .error err ↔ FirstFails number lines err := by
  refine ⟨fun hread => ?_, readFrom_of_first_fails⟩
  rcases all_hold_or_first_fails number lines with ⟨held, hheld⟩ | ⟨err', hfails⟩
  · rw [readFrom_of_all_hold hheld] at hread
    cases hread
  · rw [readFrom_of_first_fails hfails] at hread
    rwa [← Except.error.inj hread]

/-! ### Input with other input in front -/

/-- The error when so many lines stand in front. -/
def ReadError.later (k : Nat) : ReadError → ReadError
  | .line number => .line (k + number)
  | err => err

/-- An error moves with the number of its line. -/
theorem LineFails.later {number : Nat} {line : List UInt8} {err : ReadError}
    (h : LineFails number line err) (k : Nat) : LineFails (k + number) line (err.later k) := by
  cases h with
  | unreadable htext => exact .unreadable htext
  | invalid hmark hevent => exact .invalid hmark hevent

/-- Lines in front that can be read only move the first that fails. -/
theorem FirstFails.append {number : Nat} {lines others : List (List UInt8)} {err : ReadError}
    {held : List (Option Event)} (h : FirstFails number others err)
    (hlines : List.Forall₂ LineHolds lines held) :
    FirstFails number (lines ++ others) (err.later lines.length) := by
  obtain ⟨before, line, after, held', rfl, hbefore, hline⟩ := h
  refine ⟨lines ++ before, line, after, held ++ held', by rw [List.append_assoc],
    List.rel_append hlines hbefore, ?_⟩
  rw [List.length_append, Nat.add_left_comm]
  exact hline.later lines.length

/-- Segments in front of others are lines in front of others. -/
theorem wholeLines_append (segments others : List (List UInt8)) (tail : List UInt8) :
    wholeLines (segments ++ others) tail = wholeLines segments [] ++ wholeLines others tail := by
  simp [wholeLines]

/-- Each segment is one line, even if it is empty. -/
theorem length_wholeLines (segments : List (List UInt8)) :
    (wholeLines segments []).length = segments.length := by
  simp [wholeLines]

/-- The lines of input that goes on after a line feed. -/
theorem splitLines_append {a : List UInt8} (ha : a = [] ∨ a.getLast? = some 10) (b : List UInt8) :
    splitLines (a ++ b) = splitLines a ++ splitLines b ∧ (splitLines a).length = a.count 10 := by
  obtain ⟨segments, hsplits⟩ := splits_of_ends ha
  obtain ⟨others, tail, hothers⟩ := exists_splits b
  constructor
  · rw [splitLines_eq (hsplits.append hothers), splitLines_eq hsplits, splitLines_eq hothers,
      wholeLines_append]
  · rw [splitLines_eq hsplits, length_wholeLines, count_eq_length hsplits]

/-- Two parts that can be read are read one after the other. -/
theorem readLines_append_eq_ok {a b : List UInt8} {es fs : List Event}
    (ha : a = [] ∨ a.getLast? = some 10) (hes : readLines a = .ok es)
    (hfs : readLines b = .ok fs) : readLines (a ++ b) = .ok (es ++ fs) := by
  obtain ⟨held, hheld, rfl⟩ := readFrom_eq_ok_iff.1 hes
  obtain ⟨held', hheld', rfl⟩ := readFrom_eq_ok_iff.1 hfs
  rw [readLines, (splitLines_append ha b).1]
  exact readFrom_eq_ok_iff.2 ⟨held ++ held', List.rel_append hheld hheld',
    List.reduceOption_append held held'⟩

/-- An error of the second part is that of the whole, further down. -/
theorem readLines_append_eq_error {a b : List UInt8} {es : List Event} {err : ReadError}
    (ha : a = [] ∨ a.getLast? = some 10) (hes : readLines a = .ok es)
    (herr : readLines b = .error err) : readLines (a ++ b) = .error (err.later (a.count 10)) := by
  obtain ⟨held, hheld, -⟩ := readFrom_eq_ok_iff.1 hes
  have hfails := (readFrom_eq_error_iff.1 herr).append hheld
  obtain ⟨hlines, hlength⟩ := splitLines_append ha b
  rw [readLines, hlines, ← hlength]
  exact readFrom_eq_error_iff.2 hfails

/-- **Events, line by line.** Whatever the input: it is split at its line feeds in one way, and then
    reading gives the events of the lines that are not blank, in order, or nothing but the error of
    the first line that cannot be read.  A line that is no event has its number there, and blank
    lines count.

    So input may be cut after any line feed.  If the first part can be read, the events of the
    second come after its own, and an error of the second part is the error of the whole, with as
    many lines added to its number as the first part has. -/
theorem readLines_append :
    (∀ bytes, ∃ segments tail, Splits bytes segments tail ∧
      (∀ es, readLines bytes = .ok es ↔
        ∃ held, List.Forall₂ LineHolds (wholeLines segments tail) held ∧ held.reduceOption = es) ∧
      (∀ err, readLines bytes = .error err ↔ FirstFails 1 (wholeLines segments tail) err)) ∧
    (∀ a b es, (a = [] ∨ a.getLast? = some 10) → readLines a = .ok es →
      (∀ fs, readLines b = .ok fs → readLines (a ++ b) = .ok (es ++ fs)) ∧
      (∀ number, readLines b = .error (.line number) →
        readLines (a ++ b) = .error (.line (a.count 10 + number))) ∧
      (readLines b = .error .unreadable → readLines (a ++ b) = .error .unreadable)) := by
  constructor
  · intro bytes
    obtain ⟨segments, tail, hsplits⟩ := exists_splits bytes
    refine ⟨segments, tail, hsplits, ?_, ?_⟩
    · intro es
      rw [readLines, splitLines_eq hsplits]
      exact readFrom_eq_ok_iff
    · intro err
      rw [readLines, splitLines_eq hsplits]
      exact readFrom_eq_error_iff
  · intro a b es ha hes
    exact ⟨fun fs => readLines_append_eq_ok ha hes, fun number => readLines_append_eq_error ha hes,
      readLines_append_eq_error ha hes⟩

/-- An event, a blank line, and then a line that is no event. -/
theorem readLines_append_second_bad :
    let a := Utf8.encode "\x7b\"tag\":\"t\",\"record\":\x7b\x7d\x7d\r\n \n"
    let b := Utf8.encode "\u3000\nt"
    readLines a = .ok [⟨"t", none, .empty⟩] ∧ readLines b = .error (.line 2) ∧
      readLines (a ++ b) = .error (.line 4) := by
  intro a b
  have ha : readLines a = .ok [⟨"t", none, .empty⟩] := by with_unfolding_all rfl
  have hb : readLines b = .error (.line 2) := by with_unfolding_all rfl
  have hlast : a.getLast? = some 10 := by decide +kernel
  exact ⟨ha, hb, (readLines_append.2 a b _ (.inr hlast) ha).2.1 2 hb⟩

end Telemetry.Event
