import Telemetry.Json.Quoted

namespace Telemetry.Json

/-!
# Quoted text read back

A literal that the writer made is read as the text it was made from, and the reader stops
at the closing quote of that literal, whatever follows.

* `readPieces_escape` — one written character is one piece for the reader.
* `readText_quoted` — the whole literal, read from just after its opening quote.
* `quoteChars_append_inj` — hence a literal and what follows it are told apart.
* `le_of_mem_quoteChars` — no control character below 0x20 stands in a literal.
-/

/-! ### One character -/

/-- The piece as which a written character is read: a 16-bit unit where the escape is the
    long one, of six characters. -/
def pieceOf (c : Char) : Piece :=
  if (escape c).length = 6 then .unit c.toNat else .char c

/-- **The three forms of a written character:** a one-letter escape, four hexadecimal
    digits, or the character itself. -/
theorem escape_cases (c : Char) :
    (∃ e, escape c = ['\\', e] ∧ e ≠ 'u' ∧ 0x20 ≤ e.toNat ∧ unescape? e = some c) ∨
    (c.toNat < 0x20 ∧
      escape c = ['\\', 'u', '0', '0', hexDigit (c.toNat / 16), hexDigit (c.toNat % 16)]) ∨
    (c ≠ '"' ∧ c ≠ '\\' ∧ 0x20 ≤ c.toNat ∧ escape c = [c]) := by
  unfold escape
  split
  · subst_vars; exact .inl ⟨'"', by decide⟩
  split
  · subst_vars; exact .inl ⟨'\\', by decide⟩
  split
  · subst_vars; exact .inl ⟨'b', by decide⟩
  split
  · subst_vars; exact .inl ⟨'t', by decide⟩
  split
  · subst_vars; exact .inl ⟨'n', by decide⟩
  split
  · subst_vars; exact .inl ⟨'f', by decide⟩
  split
  · subst_vars; exact .inl ⟨'r', by decide⟩
  split
  · rename_i hc
    exact .inr (.inl ⟨hc, rfl⟩)
  · rename_i hquote hslash _ _ _ _ _ hc
    exact .inr (.inr ⟨hquote, hslash, Nat.not_lt.1 hc, rfl⟩)

/-- Hexadecimal digits are read back. -/
theorem hexValue?_hexDigit : ∀ n < 16, hexValue? (hexDigit n) = some n := by decide

/-- The two hexadecimal digits of a number below 256, after two zeros. -/
theorem unit?_hexDigits {n : Nat} (hn : n < 256) :
    unit? '0' '0' (hexDigit (n / 16)) (hexDigit (n % 16)) = some n := by
  have hhigh := hexValue?_hexDigit (n / 16) (by omega)
  have hlow := hexValue?_hexDigit (n % 16) (by omega)
  have hzero : hexValue? '0' = some 0 := by decide
  simp only [unit?, hhigh, hlow, hzero, Option.some.injEq]
  omega

/-- A one-letter escape is read as the character that it stands for. -/
theorem readPieces_letter {e c : Char} (he : e ≠ 'u') (hc : unescape? e = some c)
    (done : List Piece) (rest : List Char) :
    readPieces done ('\\' :: e :: rest) = readPieces (.char c :: done) rest := by
  -- The branch of four hexadecimal digits comes before the one of letters, so it is ruled out.
  rw [readPieces.eq_def]
  split
  · rename_i h
    exact absurd h (by simp)
  · rename_i h
    exact absurd (List.cons.inj h).1 (by decide)
  · rename_i h
    exact absurd (List.cons.inj (List.cons.inj h).2).1 he
  · rename_i h
    obtain ⟨rfl, rfl⟩ := List.cons.inj (List.cons.inj h).2
    rw [hc]
  · rename_i hno h
    obtain ⟨rfl, rfl⟩ := List.cons.inj h
    exact (hno e rest rfl rfl).elim

/-- A character that needs no escape is read as itself. -/
theorem readPieces_plain {c : Char} (hquote : c ≠ '"') (hslash : c ≠ '\\') (hc : 0x20 ≤ c.toNat)
    (done : List Piece) (rest : List Char) :
    readPieces done (c :: rest) = readPieces (.char c :: done) rest := by
  rw [readPieces.eq_def]
  split
  · rename_i h
    exact absurd h (by simp)
  · rename_i h
    exact absurd (List.cons.inj h).1 hquote
  · rename_i h
    exact absurd (List.cons.inj h).1 hslash
  · rename_i h
    exact absurd (List.cons.inj h).1 hslash
  · rename_i h
    obtain ⟨rfl, rfl⟩ := List.cons.inj h
    simp [hslash, Nat.not_lt.2 hc]

/-- **One written character is one piece.** The reader takes the escape of a character off
    the text and nothing more. -/
theorem readPieces_escape (done : List Piece) (c : Char) (rest : List Char) :
    readPieces done (escape c ++ rest) = readPieces (pieceOf c :: done) rest := by
  rcases escape_cases c with ⟨e, he, hu, -, hc⟩ | ⟨hc, he⟩ | ⟨hquote, hslash, hc, he⟩
  · have hp : pieceOf c = .char c := by simp [pieceOf, he]
    rw [he, hp]
    exact readPieces_letter hu hc done rest
  · have hp : pieceOf c = .unit c.toNat := by simp [pieceOf, he]
    have hu := unit?_hexDigits (Nat.lt_of_lt_of_le hc (by decide : 0x20 ≤ 256))
    simp only [he, hp, List.cons_append, List.nil_append, readPieces, hu]
  · have hp : pieceOf c = .char c := by simp [pieceOf, he]
    rw [he, hp]
    exact readPieces_plain hquote hslash hc done rest

/-! ### The whole literal -/

/-- The pieces of a literal are those of its characters, up to its own closing quote. -/
theorem readPieces_quoted (done : List Piece) (s rest : List Char) :
    readPieces done (s.flatMap escape ++ '"' :: rest) =
      some (done.reverse ++ s.map pieceOf, rest) := by
  induction s generalizing done with
  | nil => simp [readPieces]
  | cons c s ih =>
    rw [List.flatMap_cons, List.append_assoc, readPieces_escape, ih]
    simp

/-- A control character written as a unit is no surrogate, so it stands for itself. -/
theorem joinUnits_pieceOf (done : List Char) (c : Char) (ps : List Piece) :
    joinUnits done (pieceOf c :: ps) = joinUnits (c :: done) ps := by
  rcases escape_cases c with ⟨e, he, -⟩ | ⟨hc, he⟩ | ⟨-, -, -, he⟩
  · have hp : pieceOf c = .char c := by simp [pieceOf, he]
    rw [hp, joinUnits]
  · have hp : pieceOf c = .unit c.toNat := by simp [pieceOf, he]
    -- The unit is below 0x20 and surrogates start at 0xd800.
    have hlead : leads c.toNat = false := by simp [leads]; omega
    have htrail : trails c.toNat = false := by simp [trails]; omega
    rw [hp]
    cases ps with
    | nil => simp [joinUnits, hlead, htrail]
    | cons p ps => cases p <;> simp [joinUnits, hlead, htrail]
  · have hp : pieceOf c = .char c := by simp [pieceOf, he]
    rw [hp, joinUnits]

/-- Pieces of written characters are the characters again: no escape is a surrogate. -/
theorem joinUnits_map_pieceOf (done s : List Char) :
    joinUnits done (s.map pieceOf) = some (done.reverse ++ s) := by
  induction s generalizing done with
  | nil => simp [joinUnits]
  | cons c s ih =>
    rw [List.map_cons, joinUnits_pieceOf, ih]
    simp

/-- **A literal is read as its text.** The reader starts after the opening quote and stops
    after the closing one, whatever follows. -/
theorem readText_quoted (s rest : List Char) :
    readText (s.flatMap escape ++ '"' :: rest) = some (some (String.ofList s), rest) := by
  simp [readText, readPieces_quoted, joinUnits_map_pieceOf]

/-- **Literals are self-delimiting.** A literal and what follows it can be told from their
    concatenation. -/
theorem quoteChars_append_inj {s t a b : List Char}
    (h : quoteChars s ++ a = quoteChars t ++ b) : s = t ∧ a = b := by
  have hs : s.flatMap escape ++ '"' :: a = t.flatMap escape ++ '"' :: b := by
    simpa [quoteChars] using h
  -- One reader reads both, and it gives back the text and the rest.
  have hread := (readText_quoted s a).symm.trans (hs ▸ readText_quoted t b)
  simpa [String.ofList_inj] using hread

/-! ### Control characters -/

/-- An escape has no control characters. -/
theorem le_of_mem_escape {c d : Char} (hd : d ∈ escape c) : 0x20 ≤ d.toNat := by
  have hhex : ∀ n < 16, 0x20 ≤ (hexDigit n).toNat := by decide
  rcases escape_cases c with ⟨e, he, -, hle, -⟩ | ⟨hc, he⟩ | ⟨-, -, hc, he⟩
  · simp only [he, List.mem_cons, List.not_mem_nil, or_false] at hd
    rcases hd with rfl | rfl
    · decide
    · exact hle
  · simp only [he, List.mem_cons, List.not_mem_nil, or_false] at hd
    rcases hd with rfl | rfl | rfl | rfl | rfl | rfl
    · decide
    · decide
    · decide
    · decide
    · exact hhex _ (by omega)
    · exact hhex _ (by omega)
  · rw [he, List.mem_singleton] at hd
    rw [hd]; exact hc

/-- No character below 0x20 stands in a literal. -/
theorem le_of_mem_quoteChars {s : List Char} {d : Char} (hd : d ∈ quoteChars s) :
    0x20 ≤ d.toNat := by
  simp only [quoteChars, List.mem_cons, List.mem_append, List.mem_flatMap, List.not_mem_nil,
    or_false] at hd
  rcases hd with rfl | ⟨c, -, hd⟩ | rfl
  · decide
  · exact le_of_mem_escape hd
  · decide

end Telemetry.Json
