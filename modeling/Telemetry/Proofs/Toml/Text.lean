import Mathlib.Data.List.TakeWhile
import Telemetry.Proofs.Text.Delimited
import Telemetry.Toml.Text

namespace Telemetry.Toml

/-!
# Texts read back

Whatever its characters, a text that was written is read as itself, in each of the four styles.

* `longestRun_cons`, `length_takeWhile_le_longestRun` — runs of quotes, one character at a time.
* `closing?_append` — the quotes that end a text are found where the writer put them, and the
  quotes before them, if they all belong to the text, are counted.
* `escapeChar_cases`, `readBasic_escapeChar` — one character between double quotes.
* `readBasic_escapeText`, `readLiteral_append` — all that stands between the quotes.
* `readText?_writeText` — the whole text, in front of any rest that does not begin with a quote.
-/

open Text (StartsIn startsIn_nil startsIn_cons)

/-! ### Runs of quotes -/

/-- So many quotes stand around a text. -/
def quoteCount (isBlock : Bool) : Nat := if isBlock then 3 else 1

/-- So many quotes in a row may stand in a text without an escape. -/
def freeQuotes (isBlock : Bool) : Nat := if isBlock then 2 else 0

namespace Style

variable {q c : Char} {run best : Nat} {s : List Char}

/-- The best run so far is only compared with the others. -/
theorem longestRun_eq_max (q : Char) (run best : Nat) (s : List Char) :
    longestRun q run best s = max best (longestRun q run 0 s) := by
  -- The best of the runs that ended before takes part in nothing but the last comparison.
  induction s generalizing run best with
  | nil => simp [longestRun, Nat.max_comm]
  | cons c s ih =>
    unfold longestRun
    by_cases hc : c = q
    · rw [if_pos hc, if_pos hc]
      exact ih (run + 1) best
    · rw [if_neg hc, if_neg hc, ih 0 (max run best), ih 0 (max run 0)]
      omega

/-- A quotation mark makes the run longer. -/
theorem longestRun_quote (q : Char) (run : Nat) (s : List Char) :
    longestRun q run 0 (q :: s) = longestRun q (run + 1) 0 s := by
  simp [longestRun]

theorem longestRun_cons (hc : c ≠ q) (run : Nat) (s : List Char) :
    longestRun q run 0 (c :: s) = max run (longestRun q 0 0 s) := by
  rw [longestRun, if_neg hc, longestRun_eq_max, Nat.max_zero]

/-- The quotes at the front, after those that came before, are a run. -/
theorem length_takeWhile_le_longestRun (q : Char) (run : Nat) (s : List Char) :
    run + (s.takeWhile (· == q)).length ≤ longestRun q run 0 s := by
  induction s generalizing run with
  | nil => simp [longestRun]
  | cons c s ih =>
    by_cases hc : c = q
    · subst hc
      have h := ih (run + 1)
      rw [longestRun_quote, List.takeWhile_cons_of_pos (by simp), List.length_cons]
      omega
    · rw [longestRun_cons hc, List.takeWhile_cons_of_neg (by simpa using hc)]
      exact Nat.le_max_left run _

/-- With more quotes before it, the longest run is no shorter. -/
theorem longestRun_mono (q : Char) {m n : Nat} (hmn : m ≤ n) (s : List Char) :
    longestRun q m 0 s ≤ longestRun q n 0 s := by
  induction s generalizing m n with
  | nil => simpa [longestRun] using hmn
  | cons c s ih =>
    by_cases hc : c = q
    · subst hc
      rw [longestRun_quote, longestRun_quote]
      exact ih (by omega)
    · rw [longestRun_cons hc, longestRun_cons hc]
      omega

/-- The rest of a text has no longer run than the text. -/
theorem longestRun_tail_le (q c : Char) (s : List Char) :
    longestRun q 0 0 s ≤ longestRun q 0 0 (c :: s) := by
  by_cases hc : c = q
  · subst hc
    rw [longestRun_quote]
    exact longestRun_mono c (Nat.zero_le _) s
  · rw [longestRun_cons hc]
    omega

end Style

open Style

/-! ### The quotes that end a text -/

section Closing

variable {q c : Char} {s rest : List Char}

/-- A text of quotes alone is a run of them. -/
theorem replicate_length_of_all (hall : s.all (· == q) = true) : List.replicate s.length q = s := by
  symm
  apply List.eq_replicate_of_mem
  intro c hc
  simpa using List.all_eq_true.1 hall c hc

/-- A run of at most five quotes is counted in full. -/
theorem length_takeWhile_take (q : Char) {n : Nat} (hn : n ≤ 5)
    (hrest : StartsIn (· ≠ q) rest) :
    (((List.replicate n q ++ rest).take 5).takeWhile (· == q)).length = n := by
  have hnil : ∀ m, (rest.take m).takeWhile (· == q) = [] := by
    intro m
    cases rest with
    | nil => simp
    | cons c rest =>
      have hc : c ≠ q := (startsIn_cons (p := (· ≠ q))).1 hrest
      cases m <;> simp [hc]
  rw [List.take_append, List.take_of_length_le (by simpa using hn),
    List.takeWhile_append_of_pos (by simp), hnil]
  simp

/-- A text that begins with another character does not end there. -/
theorem closing?_of_ne (hc : c ≠ q) (isBlock : Bool) (rest : List Char) :
    closing? q isBlock (c :: rest) = none := by
  cases isBlock <;> simp [closing?, hc]

/-- Few quotes, before another character, do not end a text. -/
theorem closing?_replicate_eq_none {isBlock : Bool} {n : Nat} (hn : n ≤ freeQuotes isBlock)
    (hc : c ≠ q) (rest : List Char) :
    closing? q isBlock (List.replicate n q ++ c :: rest) = none := by
  cases isBlock with
  | false =>
    obtain rfl : n = 0 := by simpa [freeQuotes] using hn
    exact closing?_of_ne hc false rest
  | true =>
    have hn : n ≤ 2 := hn
    simp only [closing?, if_true]
    rw [length_takeWhile_take q (by omega) (startsIn_cons.2 hc), if_neg (by omega)]

/-- The quotes around a text end it, and the few before them are its own. -/
theorem closing?_replicate {isBlock : Bool} {n : Nat} (hn : n ≤ freeQuotes isBlock)
    (hrest : StartsIn (· ≠ q) rest) :
    closing? q isBlock (List.replicate (n + quoteCount isBlock) q ++ rest) = some (n, rest) := by
  cases isBlock with
  | false =>
    obtain rfl : n = 0 := by simpa [freeQuotes] using hn
    simp [closing?, quoteCount]
  | true =>
    have hn : n ≤ 2 := hn
    have hcount : quoteCount true = 3 := rfl
    simp only [closing?, if_true, hcount]
    rw [length_takeWhile_take q (by omega) hrest, if_pos (by omega)]
    simp

/-- **A text ends where its quotes begin.** If no more quotes than are free stand at its front,
    they count as its own, and nothing else may be left of it. -/
theorem closing?_append {isBlock : Bool}
    (hs : (s.takeWhile (· == q)).length ≤ freeQuotes isBlock) (hrest : StartsIn (· ≠ q) rest) :
    closing? q isBlock (s ++ (List.replicate (quoteCount isBlock) q ++ rest)) =
      if s.all (· == q) then some (s.length, rest) else none := by
  by_cases hall : s.all (· == q) = true
  · -- The quotes of the text and those around it are one run.
    rw [List.takeWhile_eq_self_iff.2 (List.all_eq_true.1 hall)] at hs
    rw [if_pos hall, ← closing?_replicate hs hrest, ← List.replicate_append_replicate,
      List.append_assoc, replicate_length_of_all hall]
  · -- The quotes at the front are too few, and another character stands behind them.
    have hfront := replicate_length_of_all (List.all_takeWhile (p := (· == q)) (l := s))
    cases hdrop : s.dropWhile (· == q) with
    | nil => exact absurd (List.all_eq_true.2 (List.dropWhile_eq_nil_iff.1 hdrop)) hall
    | cons c t =>
      have hc : c ≠ q := by
        have h := List.head?_dropWhile_not (· == q) s
        rw [hdrop] at h
        simpa using h
      have hsplit := List.takeWhile_append_dropWhile (p := (· == q)) (l := s)
      rw [if_neg hall, ← hsplit, ← hfront, hdrop, List.append_assoc, List.cons_append]
      exact closing?_replicate_eq_none hs hc _

end Closing

/-! ### One character between double quotes -/

/-- Hexadecimal digits are read back. -/
theorem hexValue?_hexDigit : ∀ n < 16, hexValue? (hexDigit n) = some n := by decide

/-- Control characters have seven bits. -/
theorem toNat_lt_of_isControl {c : Char} (hc : isControl c = true) : c.toNat < 0x80 := by
  simp only [isControl, Bool.or_eq_true, Bool.and_eq_true, decide_eq_true_eq, beq_iff_eq] at hc
  omega

/-- **The three forms of a character between double quotes:** a one-letter escape, a code of
    two digits after two zeros, or the character itself. -/
theorem escapeChar_cases (c : Char) :
    (∃ e, escapeChar c = ['\\', e] ∧ unescape? e = some c) ∨
    (isControl c = true ∧ escapeChar c =
      ['\\', 'u', '0', '0', hexDigit (c.toNat / 16), hexDigit (c.toNat % 16)]) ∨
    (c ≠ '\\' ∧ isPlain c = true ∧ escapeChar c = [c]) := by
  unfold escapeChar
  -- The letters, in the order in which the writer tries them.
  split
  · subst_vars; exact .inl ⟨'b', by decide⟩
  split
  · subst_vars; exact .inl ⟨'t', by decide⟩
  split
  · subst_vars; exact .inl ⟨'n', by decide⟩
  split
  · subst_vars; exact .inl ⟨'f', by decide⟩
  split
  · subst_vars; exact .inl ⟨'r', by decide⟩
  split
  · subst_vars; exact .inl ⟨'\\', by decide⟩
  split
  · rename_i hc
    exact .inr (.inl ⟨hc, rfl⟩)
  · rename_i hline _ _ hslash hc
    exact .inr (.inr ⟨hslash, by simp [isPlain, hc, hline], rfl⟩)

section ReadBasic

variable {isBlock : Bool} {c : Char} {rest : List Char}

/-- A character of the text is read as itself. -/
theorem readBasic_plain (hclosing : closing? '"' isBlock (c :: rest) = none) (hslash : c ≠ '\\')
    (hc : (isPlain c || (isBlock && c == '\n')) = true) (done : List Char) :
    readBasic isBlock done (.text false) (c :: rest) =
      readBasic isBlock (c :: done) (.text false) rest := by
  rw [readBasic, hclosing]
  simp only [Bool.false_and, Bool.false_eq_true, if_false]
  rw [if_neg hslash, if_pos hc]

/-- A backslash begins an escape. -/
theorem readBasic_backslash (isBlock : Bool) (done rest : List Char) :
    readBasic isBlock done (.text false) ('\\' :: rest) = readBasic isBlock done .escape rest := by
  rw [readBasic, closing?_of_ne (by decide)]
  simp

/-- A one-letter escape is read as the character that it stands for. -/
theorem readBasic_letter {e : Char} (he : unescape? e = some c) (isBlock : Bool)
    (done rest : List Char) :
    readBasic isBlock done (.text false) ('\\' :: e :: rest) =
      readBasic isBlock (c :: done) (.text false) rest := by
  rw [readBasic_backslash, readBasic, he]

/-- A code of two digits after two zeros is read as the character that it numbers. -/
theorem readBasic_code (hc : c.toNat < 0x80) (isBlock : Bool) (done rest : List Char) :
    readBasic isBlock done (.text false)
        ('\\' :: 'u' :: '0' :: '0' :: hexDigit (c.toNat / 16) :: hexDigit (c.toNat % 16) :: rest) =
      readBasic isBlock (c :: done) (.text false) rest := by
  have hzero : hexValue? '0' = some 0 := by decide
  have hhigh := hexValue?_hexDigit (c.toNat / 16) (by omega)
  have hlow := hexValue?_hexDigit (c.toNat % 16) (by omega)
  have hsum : c.toNat / 16 * 16 + c.toNat % 16 = c.toNat := by omega
  have hchar : scalar? c.toNat = some c := by
    have hvalid : c.toNat.isValidChar := .inl (by omega)
    rw [scalar?, if_pos hvalid, Char.ofNat_toNat]
  have hu : unescape? 'u' = none := by decide
  rw [readBasic_backslash]
  simp [readBasic, hu, hzero, hhigh, hlow, hsum, hchar]

/-- **A character between double quotes is read as itself.** -/
theorem readBasic_escapeChar (isBlock : Bool) (hquote : c ≠ '"') (done rest : List Char) :
    readBasic isBlock done (.text false) (escapeChar c ++ rest) =
      readBasic isBlock (c :: done) (.text false) rest := by
  rcases escapeChar_cases c with ⟨e, heq, he⟩ | ⟨hc, heq⟩ | ⟨hslash, hc, heq⟩
  · rw [heq]
    exact readBasic_letter he isBlock done rest
  · rw [heq]
    exact readBasic_code (toNat_lt_of_isControl hc) isBlock done rest
  · rw [heq]
    exact readBasic_plain (closing?_of_ne hquote isBlock rest) hslash (by simp [hc]) done

end ReadBasic

/-! ### All that stands between the quotes -/

section EscapeText

variable {isBlock : Bool} {run : Nat} {c : Char}

/-- **The four forms of a character in a text:** a free quote, an escaped one, a line end of a
    block, or any other character. -/
theorem escapeText_cons_cases (isBlock : Bool) (run : Nat) (c : Char) (s : List Char) :
    (c = '"' ∧ run < freeQuotes isBlock ∧
      escapeText isBlock run (c :: s) = '"' :: escapeText isBlock (run + 1) s) ∨
    (c = '"' ∧ escapeText isBlock run (c :: s) = '\\' :: '"' :: escapeText isBlock 0 s) ∨
    (c = '\n' ∧ isBlock = true ∧
      escapeText isBlock run (c :: s) = '\n' :: escapeText isBlock 0 s) ∨
    (c ≠ '"' ∧ escapeText isBlock run (c :: s) = escapeChar c ++ escapeText isBlock 0 s) := by
  rw [escapeText]
  by_cases hquote : c = '"'
  · rw [if_pos hquote]
    by_cases hfree : isBlock = true ∧ run < 2
    · obtain ⟨rfl, hrun⟩ := hfree
      exact .inl ⟨hquote, hrun, by simp [hrun]⟩
    · exact .inr (.inl ⟨hquote, if_neg (by simpa using hfree)⟩)
  · rw [if_neg hquote]
    by_cases hline : isBlock = true ∧ c = '\n'
    · exact .inr (.inr (.inl ⟨hline.2, hline.1, if_pos (by simpa using hline)⟩))
    · exact .inr (.inr (.inr ⟨hquote, if_neg (by simpa using hline)⟩))

/-- What is written for a character that is no quote begins neither with one nor with a control
    character. -/
theorem exists_escapeChar_eq_cons (hquote : c ≠ '"') :
    ∃ d t, escapeChar c = d :: t ∧ d ≠ '"' ∧ isPlain d = true := by
  rcases escapeChar_cases c with ⟨e, heq, -⟩ | ⟨-, heq⟩ | ⟨-, hc, heq⟩
  · exact ⟨_, _, heq, by decide, by decide⟩
  · exact ⟨_, _, heq, by decide, by decide⟩
  · exact ⟨c, [], heq, hquote, hc⟩

/-- No more quotes in a row are written as they are than is free. -/
theorem length_takeWhile_escapeText (hrun : run ≤ freeQuotes isBlock) (s : List Char) :
    run + ((escapeText isBlock run s).takeWhile (· == '"')).length ≤ freeQuotes isBlock := by
  induction s generalizing run with
  | nil => simpa [escapeText] using hrun
  | cons c s ih =>
    rcases escapeText_cons_cases isBlock run c s with
      ⟨-, hfree, heq⟩ | ⟨-, heq⟩ | ⟨-, -, heq⟩ | ⟨hquote, heq⟩
    · have hnext : run + 1 ≤ freeQuotes isBlock := hfree
      have h := ih hnext
      rw [heq, List.takeWhile_cons_of_pos (by simp), List.length_cons]
      omega
    · simpa [heq] using hrun
    · simpa [heq] using hrun
    · obtain ⟨d, t, hd, hne, -⟩ := exists_escapeChar_eq_cons hquote
      rw [heq, hd, List.cons_append, List.takeWhile_cons_of_neg (by simpa using hne)]
      simpa using hrun

/-- Quotes alone were written as they are. -/
theorem eq_of_all_escapeText {s : List Char}
    (h : (escapeText isBlock run s).all (· == '"') = true) : escapeText isBlock run s = s := by
  induction s generalizing run with
  | nil => rfl
  | cons c s ih =>
    rcases escapeText_cons_cases isBlock run c s with
      ⟨rfl, -, heq⟩ | ⟨-, heq⟩ | ⟨-, -, heq⟩ | ⟨hquote, heq⟩
    · rw [heq, List.all_cons, Bool.and_eq_true] at h
      rw [heq, ih h.2]
    · simp [heq] at h
    · simp [heq] at h
    · obtain ⟨d, t, hd, hne, -⟩ := exists_escapeChar_eq_cons hquote
      simp [heq, hd, hne] at h

end EscapeText

section Between

variable {isBlock : Bool} {run : Nat} {rest : List Char}

/-- What may stand between single quotes: no control characters, and line ends in a block
    only. -/
def IsLiteral (isBlock : Bool) (s : List Char) : Prop :=
  ∀ c ∈ s, (isPlain c || (isBlock && c == '\n')) = true

/-- Where the quotation marks close, the text ends; marks too many belong to it. -/
theorem readBasic_closing {n : Nat} {s : List Char} (h : closing? '"' isBlock s = some (n, rest))
    (done : List Char) :
    readBasic isBlock done (.text false) s =
      some (done.reverse ++ List.replicate n '"', rest) := by
  cases s with
  | nil => cases isBlock <;> simp [closing?] at h
  | cons c s =>
    rw [readBasic, h]
    simp

theorem readLiteral_closing {n : Nat} {s : List Char} (h : closing? '\'' isBlock s = some (n, rest))
    (done : List Char) :
    readLiteral isBlock done s = some (done.reverse ++ List.replicate n '\'', rest) := by
  cases s with
  | nil => cases isBlock <;> simp [closing?] at h
  | cons c s => rw [readLiteral, h]

/-- **A text between double quotes is read as itself.** -/
theorem readBasic_escapeText (hrun : run ≤ freeQuotes isBlock) (hrest : StartsIn (· ≠ '"') rest)
    (done s : List Char) :
    readBasic isBlock done (.text false)
        (escapeText isBlock run s ++ (List.replicate (quoteCount isBlock) '"' ++ rest)) =
      some (done.reverse ++ s, rest) := by
  induction s generalizing run done with
  | nil =>
    have hempty : (List.takeWhile (· == '"') []).length ≤ freeQuotes isBlock := Nat.zero_le _
    have hclosing := closing?_append hempty hrest
    rw [escapeText, readBasic_closing hclosing]
    simp
  | cons c s ih =>
    have hfree := Nat.le_of_add_left_le (length_takeWhile_escapeText hrun (c :: s))
    have hclosing := closing?_append hfree hrest
    -- Quotes alone are read at once with those that close the text; else the first character is
    -- read, in the form in which it was written.
    by_cases hall : (escapeText isBlock run (c :: s)).all (· == '"') = true
    · rw [if_pos hall] at hclosing
      rw [readBasic_closing hclosing, replicate_length_of_all hall, eq_of_all_escapeText hall]
    rw [if_neg hall] at hclosing
    have hdone : (c :: done).reverse ++ s = done.reverse ++ c :: s := by simp
    rcases escapeText_cons_cases isBlock run c s with
      ⟨rfl, hrun, heq⟩ | ⟨rfl, heq⟩ | ⟨rfl, rfl, heq⟩ | ⟨hquote, heq⟩
    · rw [heq, List.cons_append] at hclosing ⊢
      rw [readBasic_plain hclosing (by decide) (by simp [isPlain, isControl]), ih hrun, hdone]
    · rw [heq, List.cons_append, List.cons_append,
        readBasic_letter (c := '"') (by decide), ih (Nat.zero_le _), hdone]
    · rw [heq, List.cons_append] at hclosing ⊢
      rw [readBasic_plain hclosing (by decide) (by simp), ih (Nat.zero_le _), hdone]
    · rw [heq, List.append_assoc, readBasic_escapeChar isBlock hquote, ih (Nat.zero_le _), hdone]

/-- **A text between single quotes is read as itself** if it holds only what may stand there. -/
theorem readLiteral_append {s : List Char} (hs : IsLiteral isBlock s)
    (hrun : longestRun '\'' 0 0 s ≤ freeQuotes isBlock) (hrest : StartsIn (· ≠ '\'') rest)
    (done : List Char) :
    readLiteral isBlock done (s ++ (List.replicate (quoteCount isBlock) '\'' ++ rest)) =
      some (done.reverse ++ s, rest) := by
  induction s generalizing done with
  | nil =>
    have hempty : (List.takeWhile (· == '\'') []).length ≤ freeQuotes isBlock := Nat.zero_le _
    have hclosing := closing?_append hempty hrest
    rw [readLiteral_closing hclosing]
    simp
  | cons c s ih =>
    have hfree := Nat.le_of_add_left_le
      (Nat.le_trans (length_takeWhile_le_longestRun '\'' 0 (c :: s)) hrun)
    have hclosing := closing?_append hfree hrest
    -- The cases are those of double quotes, without escapes.
    by_cases hall : (c :: s).all (· == '\'') = true
    · rw [if_pos hall] at hclosing
      rw [readLiteral_closing hclosing, replicate_length_of_all hall]
    · rw [if_neg hall] at hclosing
      rw [List.cons_append] at hclosing ⊢
      have htail := longestRun_tail_le '\'' c s
      rw [readLiteral, hclosing]
      simp only [hs c (by simp), if_true]
      rw [ih (fun d hd => hs d (by simp [hd])) (by omega)]
      simp

end Between

/-! ### Whole texts -/

/-- A text that begins with neither quote. -/
def NoQuote (s : List Char) : Prop := StartsIn (fun c => c ≠ '"' ∧ c ≠ '\'') s

section Whole

variable {q : Char} {s rest : List Char}

/-- A text begins with no quotation mark if there is no run at its front. -/
theorem startsIn_ne_of_takeWhile (h : (s.takeWhile (· == q)).length ≤ 0) : StartsIn (· ≠ q) s := by
  cases s with
  | nil => exact startsIn_nil _
  | cons c s =>
    rw [startsIn_cons]
    rintro rfl
    simp at h

/-- A quote, a text that does not begin with it and the quote again are no three quotes. -/
theorem ne_three_quotes (hs : StartsIn (· ≠ q) s) (hrest : StartsIn (· ≠ q) rest)
    (t : List Char) : q :: (s ++ q :: rest) ≠ q :: q :: q :: t := by
  intro h
  have h := (List.cons.inj h).2
  cases s with
  | nil =>
    rw [(List.cons.inj h).2, startsIn_cons] at hrest
    exact hrest rfl
  | cons c s => exact (startsIn_cons (p := (· ≠ q))).1 hs (List.cons.inj h).1

/-- A text on one line is not taken for a block. -/
theorem readText?_line (hq : q = '"' ∨ q = '\'') (hs : StartsIn (· ≠ q) s)
    (hrest : StartsIn (· ≠ q) rest) :
    readText? (q :: (s ++ q :: rest)) = readLine? (q :: (s ++ q :: rest)) := by
  have hthree := ne_three_quotes hs hrest
  rw [readText?.eq_def]
  rcases hq with rfl | rfl
  · split
    · rename_i h
      exact absurd h (hthree _)
    · rename_i h
      exact absurd (List.cons.inj h).1 (by decide)
    · rfl
  · split
    · rename_i h
      exact absurd (List.cons.inj h).1 (by decide)
    · rename_i h
      exact absurd h (hthree _)
    · rfl

/-- The line end before a block of several lines is dropped again, and none is missed if there
    is none. -/
theorem dropLineEnd_start {body : List Char}
    (hbody : '\n' ∉ s → StartsIn (fun c => c ≠ '\n' ∧ c ≠ '\r') body) :
    dropLineEnd ((if '\n' ∈ s then ['\n'] else []) ++ body) = body := by
  by_cases hline : '\n' ∈ s
  · rw [if_pos hline]
    rfl
  · rw [if_neg hline, List.nil_append]
    have h := hbody hline
    rw [dropLineEnd.eq_def]
    split
    · exact absurd rfl (startsIn_cons.1 h).1
    · exact absurd rfl (startsIn_cons.1 h).2
    · rfl

/-- A character that stands for itself ends no line. -/
theorem ne_of_isPlain {c : Char} (hc : isPlain c = true) : c ≠ '\n' ∧ c ≠ '\r' := by
  constructor <;> rintro rfl <;> exact absurd hc (by decide)

/-- Between double quotes, no text without a line end begins with one. -/
theorem startsIn_escapeText (hs : '\n' ∉ s) (isBlock : Bool) (rest : List Char) :
    StartsIn (fun c => c ≠ '\n' ∧ c ≠ '\r') (escapeText isBlock 0 s ++ '"' :: rest) := by
  cases s with
  | nil => simp [escapeText]
  | cons c s =>
    rcases escapeText_cons_cases isBlock 0 c s with
      ⟨-, -, heq⟩ | ⟨-, heq⟩ | ⟨rfl, -, heq⟩ | ⟨hquote, heq⟩
    · simp [heq]
    · simp [heq]
    · simp at hs
    · obtain ⟨d, t, hd, -, hplain⟩ := exists_escapeChar_eq_cons hquote
      rw [heq, hd, List.cons_append, List.cons_append, startsIn_cons]
      exact ne_of_isPlain hplain

/-- The same between single quotes. -/
theorem startsIn_of_isLiteral {isBlock : Bool} (hs : IsLiteral isBlock s) (hline : '\n' ∉ s)
    (rest : List Char) :
    StartsIn (fun c => c ≠ '\n' ∧ c ≠ '\r') (s ++ '\'' :: rest) := by
  cases s with
  | nil => simp
  | cons c s =>
    have hc : c ≠ '\n' := fun h => hline (by simp [h])
    have hplain := hs c (by simp)
    rw [List.cons_append, startsIn_cons]
    exact ne_of_isPlain (by simpa [hc] using hplain)

/-- Only a text that may stand between single quotes is written between them. -/
theorem Style.of_isLiteral (h : (Style.of s).isLiteral = true) :
    IsLiteral (Style.of s).isBlock s ∧ longestRun '\'' 0 0 s ≤ freeQuotes (Style.of s).isBlock := by
  revert h
  unfold Style.of
  simp only
  split
  · intro h
    exact absurd h (by decide)
  split
  · -- On one line: neither line ends nor quotes.
    rename_i hstyle
    intro _
    simp only [Bool.and_eq_true, Bool.not_eq_true', List.any_eq_false, beq_iff_eq,
      List.contains_eq_mem, decide_eq_false_iff_not] at hstyle
    obtain ⟨⟨hcodes, hsingle⟩, hlines⟩ := hstyle
    refine ⟨fun c hc => ?_, Nat.le_of_eq hsingle⟩
    have hline : c ≠ '\n' := fun h => hlines (h ▸ hc)
    simp [isPlain, hcodes c hc, hline]
  split
  · intro h
    exact absurd h (by decide)
  split
  · -- In a block: line ends, and at most two quotes in a row.
    rename_i hstyle
    intro _
    simp only [Bool.and_eq_true, Bool.not_eq_true', List.any_eq_false, decide_eq_true_eq] at hstyle
    obtain ⟨hcodes, hsingle⟩ := hstyle
    refine ⟨fun c hc => ?_, hsingle⟩
    by_cases hline : c = '\n'
    · simp [hline]
    · simp [isPlain, hcodes c hc, hline]
  · intro h
    exact absurd h (by simp)

/-- **A written text is read as itself,** in front of any rest that begins with no quote. -/
theorem readText?_writeText (s : List Char) (hrest : NoQuote rest) :
    readText? (writeText s ++ rest) = some (s, rest) := by
  have hliteral := Style.of_isLiteral (s := s)
  have hdouble : StartsIn (· ≠ '"') rest := hrest.mono fun _ h => h.1
  have hsingle : StartsIn (· ≠ '\'') rest := hrest.mono fun _ h => h.2
  rw [writeText]
  -- Between double quotes every text may stand, so nothing else is used of the choice of style.
  generalize Style.of s = style at hliteral ⊢
  obtain ⟨isLiteral, isBlock⟩ := style
  cases isLiteral with
  | false =>
    cases isBlock with
    | false =>
      have hrun : 0 ≤ freeQuotes false := Nat.zero_le _
      have hfree := Nat.le_of_add_left_le (length_takeWhile_escapeText hrun s)
      have hline := readText?_line (.inl rfl) (startsIn_ne_of_takeWhile hfree) hdouble
      have hread := readBasic_escapeText hrun hdouble [] s
      simpa [Style.quotes] using hline.trans hread
    | true =>
      have hstart := dropLineEnd_start (s := s) fun hs =>
        startsIn_escapeText hs true ('"' :: '"' :: rest)
      have hrun : 0 ≤ freeQuotes true := Nat.zero_le _
      have hread := readBasic_escapeText hrun hdouble [] s
      simpa [Style.quotes, quoteCount, List.replicate_succ, readText?, hstart] using hread
  | true =>
    obtain ⟨hs, hrun⟩ := hliteral rfl
    cases isBlock with
    | false =>
      have hfree := Nat.le_of_add_left_le
        (Nat.le_trans (length_takeWhile_le_longestRun '\'' 0 s) hrun)
      have hline := readText?_line (.inr rfl) (startsIn_ne_of_takeWhile hfree) hsingle
      have hread := readLiteral_append hs hrun hsingle []
      simpa [Style.quotes] using hline.trans hread
    | true =>
      have hstart := dropLineEnd_start (s := s) fun hline =>
        startsIn_of_isLiteral hs hline ('\'' :: '\'' :: rest)
      have hread := readLiteral_append hs hrun hsingle []
      simpa [Style.quotes, quoteCount, List.replicate_succ, readText?, hstart] using hread

end Whole

end Telemetry.Toml
