import Telemetry.Proofs.Json.Numeral
import Telemetry.Proofs.Toml.Text
import Telemetry.Toml.Reader
import Telemetry.Toml.Writer

namespace Telemetry.Toml

/-!
# Documents read back

A document that was written is read as itself if its keys need no quotes and are all
different.

* `readInteger?_writeInteger`, `readTexts_items`, `readValue?_writeValue` — a value in front of a
  line end.
* `IsKey`, `readEntry?_writeEntry` — a key with its value.
* `Document.Keyed`, `readLines_flatMap` — the lines of a document.
* `read?_of_write?` — the whole document.
-/

/-! ### Integers -/

section Integer

variable {c : Char} {rest : List Char}

/-- A decimal digit has its value. -/
theorem digit?_of_isDigit (hc : c.isDigit = true) : digit? 10 c = some (c.toNat - '0'.toNat) := by
  obtain ⟨hlow, hhigh⟩ := Char.isDigit_iff_toNat.1 hc
  have hle : ('0' ≤ c && c ≤ '9') = true := by simpa [Char.isDigit, Char.le_def] using hc
  have hlt : c.toNat - 48 < 10 := by
    have hnine : '9'.toNat = 57 := rfl
    omega
  rw [digit?, hexValue?, if_pos hle]
  simpa using hlt

/-- Digits are read up to the end of the line. -/
theorem readDigits_append {ds : List Char} (hds : ∀ c ∈ ds, c.isDigit = true) {isOpen : Bool}
    (hopen : isOpen = true → ds ≠ []) (value : Nat) :
    readDigits 10 value isOpen (ds ++ '\n' :: rest) =
      some (Nat.ofDigitChars 10 ds value, '\n' :: rest) := by
  induction ds generalizing value isOpen with
  | nil =>
    have hclosed : isOpen = false := by simpa using hopen
    have hline : digit? 10 '\n' = none := by decide
    simp [readDigits, hline, hclosed]
  | cons d ds ih =>
    have hd := digit?_of_isDigit (hds d (by simp))
    rw [List.cons_append, readDigits, hd]
    simp only
    rw [ih (fun c hc => hds c (by simp [hc])) (by simp), Nat.ofDigitChars_cons, Nat.mul_comm]

/-- A number whose digits begin with a zero has no further ones. -/
theorem eq_of_toDigits_append {n : Nat} {t : List Char}
    (h : Nat.toDigits 10 n ++ '\n' :: rest = '0' :: t) : n = 0 ∧ t = '\n' :: rest := by
  cases hdigits : Nat.toDigits 10 n with
  | nil => exact absurd hdigits Nat.toDigits_ne_nil
  | cons d ds =>
    rw [hdigits, List.cons_append, List.cons.injEq] at h
    obtain ⟨rfl, rfl⟩ := h
    cases ds with
    | nil =>
      refine ⟨?_, rfl⟩
      rw [← Nat.ofDigitChars_ten_toDigits (n := n), hdigits]
      rfl
    | cons e es => exact absurd hdigits (Json.Numeral.toDigits_ne_zero_cons n e es)

/-- Digits are read back up to the end of their line. -/
theorem readDecimal?_toDigits (n : Nat) :
    readDecimal? (Nat.toDigits 10 n ++ '\n' :: rest) = some (n, '\n' :: rest) := by
  have hread : readDigits 10 0 true (Nat.toDigits 10 n ++ '\n' :: rest) = _ :=
    readDigits_append (fun _ => Text.isDigit_of_mem_toDigits) (fun _ => Nat.toDigits_ne_nil) 0
  rw [Nat.ofDigitChars_ten_toDigits] at hread
  rw [readDecimal?.eq_def]
  split
  · rename_i heq
    obtain ⟨rfl, rfl⟩ := eq_of_toDigits_append heq
    rfl
  · exact hread

/-- Digits have neither a sign nor the mark of another base before them. -/
theorem readNumber?_toDigits (n : Nat) :
    readNumber? (Nat.toDigits 10 n ++ '\n' :: rest) = some ((n : Int), '\n' :: rest) := by
  have hsign : ∀ {c : Char} {t : List Char}, Nat.toDigits 10 n ++ '\n' :: rest = c :: t →
      c.isDigit = true := by
    intro c t h
    cases hdigits : Nat.toDigits 10 n with
    | nil => exact absurd hdigits Nat.toDigits_ne_nil
    | cons d ds =>
      rw [hdigits, List.cons_append, List.cons.injEq] at h
      rw [← h.1]
      exact Text.isDigit_of_mem_toDigits (n := n) (by simp [hdigits])
  -- The marks of the bases stand after a zero, where the line would have to end.
  rw [readNumber?.eq_def]
  split
  · rename_i h
    exact absurd (eq_of_toDigits_append h).2 (by simp)
  · rename_i h
    exact absurd (eq_of_toDigits_append h).2 (by simp)
  · rename_i h
    exact absurd (eq_of_toDigits_append h).2 (by simp)
  · rename_i h
    exact absurd (hsign h) (by decide)
  · rename_i h
    exact absurd (hsign h) (by decide)
  · rw [readDecimal?_toDigits]
    rfl

/-- **An integer that fits is read as itself.** -/
theorem readInteger?_writeInteger {n : Int} (hn : fitsInteger n = true) (rest : List Char) :
    readInteger? (writeInteger n ++ '\n' :: rest) = some (n, '\n' :: rest) := by
  have hread : readNumber? (writeInteger n ++ '\n' :: rest) = some (n, '\n' :: rest) := by
    unfold writeInteger
    by_cases hsign : n < 0
    · have habs : -(n.natAbs : Int) = n := by omega
      rw [if_pos hsign, List.cons_append]
      simp only [readNumber?, readDecimal?_toDigits, Option.map_some, habs]
    · have habs : (n.natAbs : Int) = n := by omega
      rw [if_neg hsign, readNumber?_toDigits, habs]
  rw [readInteger?, hread]
  simpa using hn

/-- An integer begins with a minus or a digit. -/
theorem exists_writeInteger_eq_cons (n : Int) :
    ∃ c t, writeInteger n = c :: t ∧ (c = '-' ∨ c.isDigit = true) := by
  unfold writeInteger
  by_cases hsign : n < 0
  · exact ⟨'-', _, if_pos hsign, .inl rfl⟩
  · cases hdigits : Nat.toDigits 10 n.natAbs with
    | nil => exact absurd hdigits Nat.toDigits_ne_nil
    | cons d ds =>
      have hd := Text.isDigit_of_mem_toDigits (n := n.natAbs) (c := d) (by simp [hdigits])
      exact ⟨d, ds, if_neg hsign, .inr hd⟩

end Integer

/-! ### Lists of texts -/

section Texts

variable {s : List Char} {rest : List Char}

/-- A text begins with one of the quotes. -/
theorem exists_writeText_eq_cons (s : List Char) :
    ∃ q t, writeText s = q :: t ∧ (q = '"' ∨ q = '\'') := by
  unfold writeText
  generalize Style.of s = style
  obtain ⟨isLiteral, isBlock⟩ := style
  cases isLiteral with
  | false => cases isBlock <;> exact ⟨_, _, rfl, .inl rfl⟩
  | true => cases isBlock <;> exact ⟨_, _, rfl, .inr rfl⟩

/-- No gap stands before a text. -/
theorem skipGaps_writeText (s rest : List Char) :
    skipGaps false (writeText s ++ rest) = some (writeText s ++ rest) := by
  obtain ⟨q, t, hq, rfl | rfl⟩ := exists_writeText_eq_cons s <;>
    simp [hq, skipGaps, endsLine, isBlank]

/-- One text of a list is read, with the bracket or the comma behind it. -/
theorem readTexts_text {x : String} {d : Char} (hd : d = ']' ∨ d = ',')
    (hs : skipGaps false s = some (writeText x.toList ++ d :: rest)) (done : List String)
    (fuel : Nat) :
    readTexts done (fuel + 1) s =
      if d = ']' then some ((x :: done).reverse, rest) else readTexts (x :: done) fuel rest := by
  have hafter : NoQuote (d :: rest) := by rcases hd with rfl | rfl <;> simp [NoQuote]
  have hread := readText?_writeText x.toList hafter
  -- The list goes on, as a text does not begin with the bracket.
  obtain ⟨q, t, hq, hquote⟩ := exists_writeText_eq_cons x.toList
  have hbracket : q ≠ ']' := by
    rintro rfl
    exact absurd hquote (by decide)
  rw [hq, List.cons_append] at hs hread
  rw [readTexts, hs]
  rcases hd with rfl | rfl <;> simp [hread, hbracket, skipGaps, endsLine, isBlank]

/-- A text with its line in a list of several. -/
theorem skipGaps_line (s : List Char) :
    skipGaps false ('\n' :: ("    ".toList ++ (writeText s ++ rest))) =
      some (writeText s ++ rest) := by
  rw [← skipGaps_writeText s rest]
  simp [skipGaps, endsLine, isBlank]

/-- The texts of a list on lines of their own, from the first line end on. -/
theorem readTexts_items (xs done : List String) {fuel : Nat} (hfuel : xs.length < fuel) :
    readTexts done fuel ('\n' ::
        (xs.flatMap (fun s => "    ".toList ++ writeText s.toList ++ [',', '\n']) ++
          ']' :: rest)) =
      some (done.reverse ++ xs, rest) := by
  -- Each text takes the gap before it and the comma behind it, and leaves the next line end.
  induction xs generalizing done fuel with
  | nil =>
    obtain ⟨fuel, rfl⟩ := Nat.exists_eq_add_one_of_ne_zero (Nat.ne_zero_of_lt hfuel)
    simp [readTexts, skipGaps, endsLine, isBlank]
  | cons x xs ih =>
    obtain ⟨fuel, rfl⟩ := Nat.exists_eq_add_one_of_ne_zero (Nat.ne_zero_of_lt hfuel)
    rw [List.length_cons, Nat.add_lt_add_iff_right] at hfuel
    simp only [List.flatMap_cons, List.append_assoc, List.cons_append, List.nil_append] at ih ⊢
    rw [readTexts_text (.inr rfl) (skipGaps_line x.toList), if_neg (by decide), ih _ hfuel]
    simp

/-- Parts that are not empty are no more than their characters. -/
theorem length_le_length_flatMap {α β : Type} {f : α → List β} (hf : ∀ x, f x ≠ [])
    (xs : List α) : xs.length ≤ (xs.flatMap f).length := by
  induction xs with
  | nil => simp
  | cons x xs ih =>
    have hx := List.length_pos_iff.2 (hf x)
    rw [List.flatMap_cons, List.length_append, List.length_cons]
    omega

/-- **A list of texts is read as itself.** -/
theorem readValue?_writeTexts (xs : List String) :
    readValue? (writeTexts xs ++ rest) = some (.texts xs, rest) := by
  match xs with
  | [] => simp [writeTexts, readValue?, readTexts, skipGaps, endsLine, isBlank]
  | [x] =>
    have hread := readTexts_text (.inl rfl) (skipGaps_writeText x.toList (']' :: rest)) []
    simp [writeTexts, readValue?, hread]
  | x :: y :: xs =>
    have hlength := length_le_length_flatMap
      (f := fun s : String => "    ".toList ++ writeText s.toList ++ [',', '\n']) (by simp)
      (x :: y :: xs)
    have hwritten : writeTexts (x :: y :: xs) ++ rest =
        '[' :: '\n' :: ((x :: y :: xs).flatMap
          (fun s => "    ".toList ++ writeText s.toList ++ [',', '\n']) ++ ']' :: rest) := by
      rw [writeTexts, List.cons_append, List.cons_append, List.append_assoc]
      · rfl
      all_goals simp
    rw [hwritten, readValue?, readTexts_items]
    · rfl
    · simp only [List.length_cons, List.length_append] at hlength ⊢
      omega

end Texts

/-! ### Values -/

/-- A value that begins like an integer is read as one. -/
theorem readValue?_of_first {c : Char} {s t rest : List Char} (hs : s = c :: t)
    (hc : c = '-' ∨ c.isDigit = true) :
    readValue? (s ++ rest) =
      (readInteger? (s ++ rest)).map fun (n, rest) => (.integer n, rest) := by
  have hne : ∀ d : Char, ¬ (d = '-' ∨ d.isDigit = true) → c ≠ d := by
    rintro d hd rfl
    exact hd hc
  have hquote : (decide (c = '"') || decide (c = '\'')) = false := by
    simp [hne '"' (by decide), hne '\'' (by decide)]
  rw [hs, List.cons_append, readValue?.eq_def]
  split
  · rename_i h
    exact absurd (List.cons.inj h).1 (hne '[' (by decide))
  · rename_i h
    exact absurd (List.cons.inj h).1 (hne 't' (by decide))
  · rename_i h
    exact absurd (List.cons.inj h).1 (hne 'f' (by decide))
  · rename_i h
    rw [← (List.cons.inj h).1, hquote]
    rfl
  · rename_i h
    exact absurd h (by simp)

/-- **A value is read as itself,** up to the end of its line. -/
theorem readValue?_writeValue {v : Value} (hv : v.fits = true) (rest : List Char) :
    readValue? (writeValue v ++ '\n' :: rest) = some (v, '\n' :: rest) := by
  cases v with
  | text s =>
    have hafter : NoQuote ('\n' :: rest) := by simp [NoQuote]
    have hread := readText?_writeText s.toList hafter
    obtain ⟨q, t, hq, rfl | rfl⟩ := exists_writeText_eq_cons s.toList
    · rw [hq, List.cons_append] at hread
      simp [writeValue, hq, readValue?, hread]
    · rw [hq, List.cons_append] at hread
      simp [writeValue, hq, readValue?, hread]
  | integer n =>
    have hread := readInteger?_writeInteger hv rest
    obtain ⟨c, t, hc, hfirst⟩ := exists_writeInteger_eq_cons n
    rw [writeValue, readValue?_of_first hc hfirst, hread]
    rfl
  | boolean b => cases b <;> rfl
  | texts xs => exact readValue?_writeTexts xs

/-- No blank stands before a value. -/
theorem skipBlanks_writeValue (v : Value) (rest : List Char) :
    skipBlanks (writeValue v ++ rest) = writeValue v ++ rest := by
  have hfirst : ∃ c t, writeValue v = c :: t ∧ isBlank c = false := by
    cases v with
    | text s =>
      obtain ⟨q, t, hq, rfl | rfl⟩ := exists_writeText_eq_cons s.toList
      · exact ⟨_, _, hq, by decide⟩
      · exact ⟨_, _, hq, by decide⟩
    | integer n =>
      obtain ⟨c, t, hc, hfirst⟩ := exists_writeInteger_eq_cons n
      refine ⟨c, t, hc, ?_⟩
      rw [Bool.eq_false_iff]
      intro hblank
      simp only [isBlank, Bool.or_eq_true, beq_iff_eq] at hblank
      rcases hblank with rfl | rfl <;> exact absurd hfirst (by decide)
    | boolean b => cases b <;> exact ⟨_, _, rfl, by decide⟩
    | texts xs =>
      match xs with
      | [] => exact ⟨_, _, rfl, by decide⟩
      | [x] => exact ⟨_, _, rfl, by decide⟩
      | x :: y :: xs => exact ⟨_, _, rfl, by decide⟩
  obtain ⟨c, t, hc, hblank⟩ := hfirst
  rw [hc, List.cons_append, skipBlanks, List.dropWhile_cons_of_neg (by simp [hblank])]

/-! ### Entries -/

/-- A key that needs no quotes. -/
def IsKey (key : String) : Prop := key ≠ "" ∧ key.toList.all isKeyChar = true

instance (key : String) : Decidable (IsKey key) := by
  unfold IsKey
  infer_instance

section Entry

variable {key : String}

/-- A key begins with one of its characters, so it is not empty. -/
theorem IsKey.exists_eq_cons (hkey : IsKey key) :
    ∃ c t, key.toList = c :: t ∧ isKeyChar c = true := by
  cases hchars : key.toList with
  | nil => exact absurd (String.toList_eq_nil_iff.1 hchars) hkey.1
  | cons c t => exact ⟨c, t, rfl, List.all_eq_true.1 hkey.2 c (by simp [hchars])⟩

/-- A character of a key has no other meaning. -/
theorem ne_of_isKeyChar {c d : Char} (hc : isKeyChar c = true) (hd : isKeyChar d = false) :
    c ≠ d := by
  rintro rfl
  rw [hc] at hd
  exact absurd hd (by decide)

/-- A key is read up to the blank after it. -/
theorem readKey?_append (hkey : IsKey key) (rest : List Char) :
    readKey? (key.toList ++ ' ' :: rest) = some (key.toList, ' ' :: rest) := by
  have hspace : isKeyChar ' ' = false := by decide
  have hchar : ∀ c ∈ key.toList, isKeyChar c = true := List.all_eq_true.1 hkey.2
  have htake : (key.toList ++ ' ' :: rest).takeWhile isKeyChar = key.toList := by
    rw [List.takeWhile_append_of_pos hchar, List.takeWhile_cons_of_neg (by simp [hspace]),
      List.append_nil]
  have hdrop : (key.toList ++ ' ' :: rest).dropWhile isKeyChar = ' ' :: rest := by
    rw [List.dropWhile_append_of_pos hchar, List.dropWhile_cons_of_neg (by simp [hspace])]
  obtain ⟨c, t, hchars, hc⟩ := hkey.exists_eq_cons
  rw [hchars, List.cons_append] at htake hdrop ⊢
  have hdouble : c ≠ '"' := ne_of_isKeyChar hc (by decide)
  have hsingle : c ≠ '\'' := ne_of_isKeyChar hc (by decide)
  simp only [readKey?, htake, hdrop]
  simp [hdouble, hsingle, hc]

/-- **A key with its value is read as itself.** -/
theorem readEntry?_writeEntry {v : Value} (hkey : IsKey key) (hv : v.fits = true)
    (rest : List Char) :
    readEntry? (writeEntry (key, v) ++ rest) = some ((key, v), rest) := by
  have hwritten : writeEntry (key, v) ++ rest =
      key.toList ++ ' ' :: '=' :: ' ' :: (writeValue v ++ '\n' :: rest) := by
    simp [writeEntry]
  have hequals : skipBlanks (' ' :: '=' :: ' ' :: (writeValue v ++ '\n' :: rest)) =
      '=' :: ' ' :: (writeValue v ++ '\n' :: rest) := rfl
  have hgap : skipBlanks (' ' :: (writeValue v ++ '\n' :: rest)) = writeValue v ++ '\n' :: rest :=
    skipBlanks_writeValue v _
  have hend : endOfLine? ('\n' :: rest) = some rest := rfl
  rw [hwritten, readEntry?, readKey?_append hkey]
  simp only [hequals, hgap, readValue?_writeValue hv, hend, Option.map_some, String.ofList_toList]

/-- An entry begins with its key. -/
theorem exists_writeEntry_eq_cons (hkey : IsKey key) (v : Value) :
    ∃ c t, writeEntry (key, v) = c :: t ∧ isKeyChar c = true := by
  obtain ⟨c, t, hchars, hc⟩ := hkey.exists_eq_cons
  exact ⟨c, _, by rw [writeEntry, hchars]; rfl, hc⟩

end Entry

/-! ### Documents -/

/-- What a document needs to be read back: keys without quotes, all different. -/
structure Document.Keyed (d : Document) : Prop where
  isKey : ∀ e ∈ d, IsKey e.1
  nodup : (d.map Prod.fst).Nodup

/-- One line is read, if its key has not been read before. -/
theorem readLines_writeEntry {done : Document} {e : String × Value} (hkey : IsKey e.1)
    (hfits : e.2.fits = true) (hdone : done.lookup e.1 = none) (fuel : Nat) (rest : List Char) :
    readLines done (fuel + 1) (writeEntry e ++ rest) = readLines (e :: done) fuel rest := by
  have hread := readEntry?_writeEntry hkey hfits rest
  obtain ⟨c, t, hchars, hc⟩ := exists_writeEntry_eq_cons hkey e.2
  rw [hchars, List.cons_append] at hread
  -- A character of a key is no blank and begins neither a comment nor a line end.
  have hblank : isBlank c = false := by
    simp [isBlank, ne_of_isKeyChar hc (d := ' ') (by decide),
      ne_of_isKeyChar hc (d := '\t') (by decide)]
  have hother : (decide (c = '#') || endsLine c (t ++ rest)) = false := by
    simp [endsLine, ne_of_isKeyChar hc (d := '#') (by decide),
      ne_of_isKeyChar hc (d := '\n') (by decide), ne_of_isKeyChar hc (d := '\r') (by decide)]
  have hskip : skipBlanks (c :: (t ++ rest)) = c :: (t ++ rest) :=
    List.dropWhile_cons_of_neg (by simp [hblank])
  rw [hchars, List.cons_append, readLines, hskip]
  simp only [hother, hread, hdone]
  simp

/-- **The lines of a document are read as its entries,** after those that were read before. -/
theorem readLines_flatMap {d : Document} (hd : d.Keyed) (hfits : ∀ e ∈ d, e.2.fits = true)
    (done : Document) (hdone : ∀ e ∈ d, done.lookup e.1 = none) {fuel : Nat}
    (hfuel : d.length ≤ fuel) :
    readLines done fuel (d.flatMap writeEntry) = some (done.reverse ++ d) := by
  induction d generalizing done fuel with
  | nil => cases fuel <;> simp [readLines, skipBlanks]
  | cons e d ih =>
    -- The key of this entry is none of those to come, so it may be among those read.
    obtain ⟨hhead, htail⟩ := List.nodup_cons.1 hd.nodup
    have hkeyed : Document.Keyed d := ⟨fun x hx => hd.isKey x (by simp [hx]), htail⟩
    have hnext : ∀ x ∈ d, List.lookup x.1 (e :: done) = none := by
      intro x hx
      have hne : x.1 ≠ e.1 := fun h => hhead (h ▸ List.mem_map_of_mem hx)
      rw [List.lookup_cons, beq_false_of_ne hne]
      exact hdone x (by simp [hx])
    cases fuel with
    | zero => simp at hfuel
    | succ fuel =>
      rw [List.flatMap_cons, readLines_writeEntry (hd.isKey e (by simp)) (hfits e (by simp))
        (hdone e (by simp)),
        ih hkeyed (fun x hx => hfits x (by simp [hx])) _ hnext (by simpa using hfuel)]
      simp

/-- **A document that was written is read as itself.** -/
theorem read?_of_write? {d : Document} {s : String} (hd : d.Keyed) (h : write? d = some s) :
    read? s = some d := by
  unfold write? at h
  by_cases hfits : d.all (·.2.fits) = true
  · rw [if_pos hfits, Option.some.injEq] at h
    have hlength := length_le_length_flatMap (f := writeEntry) (by simp [writeEntry]) d
    have hread := readLines_flatMap hd (by simpa using hfits) [] (by simp) hlength
    rw [← h, read?, String.toList_ofList]
    -- No byte order mark is dropped: the text is empty or begins with a key.
    cases d with
    | nil => exact hread
    | cons e d =>
      obtain ⟨c, t, hchars, hc⟩ := exists_writeEntry_eq_cons (hd.isKey e (by simp)) e.2
      have hmark : c ≠ '\ufeff' := ne_of_isKeyChar hc (by decide)
      rw [List.flatMap_cons, hchars, List.cons_append] at hread ⊢
      simpa [hmark] using hread
  · rw [if_neg hfits] at h
    exact absurd h (by simp)

end Telemetry.Toml
