namespace Telemetry.Json

/-!
# Quoted text

A JSON string literal.  The writer escapes the quote, the backslash and the control
characters below 0x20, and nothing else; so a literal ends at its own closing quote.
The reader accepts every escape of the grammar and every spelling of a character.

* `escape`, `quote` — the written form.
* `Piece`, `readPieces` — a literal read as characters and 16-bit `\u` units.
* `joinUnits` — units paired into characters; an unpaired surrogate has no character.
* `readText` — a literal from just after its opening quote, with what follows it.
-/

/-! ### Writing -/

/-- The lower-case hexadecimal digit of a number below 16. -/
def hexDigit (n : Nat) : Char := Nat.digitChar n

/-- The written form of one character. -/
def escape (c : Char) : List Char :=
  if c = '"' then ['\\', '"']
  else if c = '\\' then ['\\', '\\']
  else if c = '\x08' then ['\\', 'b']
  else if c = '\t' then ['\\', 't']
  else if c = '\n' then ['\\', 'n']
  else if c = '\x0c' then ['\\', 'f']
  else if c = '\r' then ['\\', 'r']
  else if c.toNat < 0x20 then
    ['\\', 'u', '0', '0', hexDigit (c.toNat / 16), hexDigit (c.toNat % 16)]
  else [c]

/-- The characters of a literal. -/
def quoteChars (s : List Char) : List Char := '"' :: (s.flatMap escape ++ ['"'])

/-- Text as a JSON string literal. -/
def quote (s : String) : String := String.ofList (quoteChars s.toList)

/-! ### Reading -/

/-- A character of a literal, or a 16-bit unit written as a `\u` escape. -/
inductive Piece where
  | char (c : Char)
  | unit (n : Nat)
deriving DecidableEq, Repr

/-- The value of a hexadecimal digit of either case. -/
def hexValue? (c : Char) : Option Nat :=
  if '0' ≤ c && c ≤ '9' then some (c.toNat - 48)
  else if 'a' ≤ c && c ≤ 'f' then some (c.toNat - 87)
  else if 'A' ≤ c && c ≤ 'F' then some (c.toNat - 55)
  else none

/-- The unit written with four hexadecimal digits. -/
def unit? (a b c d : Char) : Option Nat :=
  match hexValue? a, hexValue? b, hexValue? c, hexValue? d with
  | some a, some b, some c, some d => some (4096 * a + 256 * b + 16 * c + d)
  | _, _, _, _ => none

/-- The character of a one-letter escape. -/
def unescape? (c : Char) : Option Char :=
  if c = '"' then some '"'
  else if c = '\\' then some '\\'
  else if c = '/' then some '/'
  else if c = 'b' then some '\x08'
  else if c = 'f' then some '\x0c'
  else if c = 'n' then some '\n'
  else if c = 'r' then some '\r'
  else if c = 't' then some '\t'
  else none

/-- Reads up to the closing quote; `done` holds the pieces before, last first. -/
def readPieces (done : List Piece) : List Char → Option (List Piece × List Char)
  | [] => none
  | '"' :: rest => some (done.reverse, rest)
  | '\\' :: 'u' :: a :: b :: c :: d :: rest =>
    match unit? a b c d with
    | some n => readPieces (.unit n :: done) rest
    | none => none
  | '\\' :: e :: rest =>
    match unescape? e with
    | some c => readPieces (.char c :: done) rest
    | none => none
  | c :: rest =>
    if c = '\\' || c.toNat < 0x20 then none else readPieces (.char c :: done) rest

/-- A unit of the upper half of the surrogates, which must come first in a pair. -/
def leads (n : Nat) : Bool := decide (0xD800 ≤ n) && decide (n < 0xDC00)

/-- A unit of the lower half of the surrogates, which must come second in a pair. -/
def trails (n : Nat) : Bool := decide (0xDC00 ≤ n) && decide (n < 0xE000)

/-- The character of a surrogate pair. -/
def pairChar (lead trail : Nat) : Char :=
  Char.ofNat (0x10000 + (lead - 0xD800) * 0x400 + (trail - 0xDC00))

/-- The characters of the pieces after those in `done` (last first); `none` when a
    surrogate is unpaired. -/
def joinUnits (done : List Char) : List Piece → Option (List Char)
  | [] => some done.reverse
  | .char c :: rest => joinUnits (c :: done) rest
  | .unit n :: .unit m :: rest =>
    if leads n then
      if trails m then joinUnits (pairChar n m :: done) rest else none
    else if trails n then none
    else joinUnits (Char.ofNat n :: done) (.unit m :: rest)
  | .unit n :: rest =>
    if leads n || trails n then none else joinUnits (Char.ofNat n :: done) rest

/-- A literal from just after its opening quote.  The text is `none` when the literal is
    well formed but holds an unpaired surrogate. -/
def readText (s : List Char) : Option (Option String × List Char) :=
  (readPieces [] s).map fun (pieces, rest) => ((joinUnits [] pieces).map String.ofList, rest)

theorem readPieces_length {done : List Piece} {s : List Char} {r : List Piece × List Char}
    (h : readPieces done s = some r) : r.2.length < s.length := by
  fun_induction readPieces done s with
  | case1 => simp at h
  | case2 => simp only [Option.some.injEq] at h; subst h; simp
  | case3 _ _ _ _ _ _ _ _ ih => have := ih h; simp only [List.length_cons]; omega
  | case4 => simp at h
  | case5 _ _ _ _ _ _ ih => have := ih h; simp only [List.length_cons]; omega
  | case6 => simp at h
  | case7 => simp at h
  | case8 _ _ _ _ _ _ _ ih => have := ih h; simp only [List.length_cons]; omega

/-- A quoted text takes its opening mark at least. -/
theorem readText_length {s : List Char} {t : Option String} {rest : List Char}
    (h : readText s = some (t, rest)) : rest.length < s.length := by
  simp only [readText, Option.map_eq_some_iff, Prod.mk.injEq] at h
  obtain ⟨r, hr, -, rfl⟩ := h
  exact readPieces_length hr

end Telemetry.Json
