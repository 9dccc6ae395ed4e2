import Telemetry.Double.Text

namespace Telemetry.Json

/-!
# JSON numbers

A number is an integer that fits 64 bits, signed or unsigned, or a finite double.

* `Numeral` — the grammar: sign, digits, fraction, exponent.
* `Numeral.read?` — the longest numeral at the front of a text.
* `Numeral.value?` — its number; `none` when it exceeds the largest double.

A numeral without fraction and exponent is an integer if it fits.  Any other one is a
double computed in two steps: as many leading digits as fit an unsigned word make the
significand, and that significand, as a double, is multiplied or divided by one power of
ten.  The result can differ from the nearest double in its last bits.
-/

/-- A number of a document. -/
inductive Number where
  | integer (n : Int) (fits : -0x8000000000000000 ≤ n ∧ n < 0x10000000000000000)
  | float (x : Double) (finite : x.isFinite = true)
deriving DecidableEq, Repr

namespace Number

/-- The characters of a number. -/
def chars : Number → List Char
  | integer n _ => (toString n).toList
  | float x _ => x.chars

/-- A signed word. -/
def ofInt64 (n : Int64) : Number :=
  integer n.toInt (by have := n.toInt_lt; have := n.le_toInt; omega)

/-- An unsigned word. -/
def ofUInt64 (n : UInt64) : Number :=
  integer n.toNat (by have := n.toNat_lt; omega)

/-- A double that has a number. -/
def ofDouble? (x : Double) : Option Number :=
  if h : x.isFinite = true then some (float x h) else none

end Number

/-- A numeral by its parts.  A fraction has a digit or is absent (`[]`); an exponent is its
    sign (`true` for minus) and its digits. -/
structure Numeral where
  negative : Bool
  whole : List Char
  fraction : List Char
  exponent : Option (Bool × List Char)
deriving DecidableEq, Repr

namespace Numeral

/-! ### Grammar -/

/-- One or more digits and what follows them. -/
def readDigits (s : List Char) : Option (List Char × List Char) :=
  let digits := s.takeWhile Char.isDigit
  if digits.isEmpty then none else some (digits, s.dropWhile Char.isDigit)

/-- Digits without a superfluous leading zero. -/
def readWhole (s : List Char) : Option (List Char × List Char) :=
  match readDigits s with
  | some ('0' :: _ :: _, _) => none
  | r => r

/-- The digits after a point, `[]` when there is no point. -/
def readFraction : List Char → Option (List Char × List Char)
  | '.' :: s => readDigits s
  | s => some ([], s)

/-- A sign that may be left out: `true` for minus. -/
def readSign : List Char → Bool × List Char
  | '-' :: s => (true, s)
  | '+' :: s => (false, s)
  | s => (false, s)

/-- The exponent, `none` when there is no exponent mark. -/
def readExponent : List Char → Option (Option (Bool × List Char) × List Char)
  | c :: s =>
    if c = 'e' || c = 'E' then
      let (negative, s) := readSign s
      (readDigits s).map fun (digits, rest) => (some (negative, digits), rest)
    else some (none, c :: s)
  | [] => some (none, [])

/-- A leading minus, if there is one. -/
def readMinus : List Char → Bool × List Char
  | '-' :: s => (true, s)
  | s => (false, s)

/-- The longest numeral at the front of a text, and what follows it. -/
def read? (s : List Char) : Option (Numeral × List Char) :=
  let (negative, s) := readMinus s
  match readWhole s with
  | none => none
  | some (whole, s) =>
    match readFraction s with
    | none => none
    | some (fraction, s) =>
      match readExponent s with
      | none => none
      | some (exponent, s) => some (⟨negative, whole, fraction, exponent⟩, s)

/-! ### Value -/

/-- Appends digits to a significand as long as it fits an unsigned 64-bit word; the digits
    left over are returned beside it. -/
def accumulate (significand : Nat) : List Char → Nat × List Char
  | [] => (significand, [])
  | d :: rest =>
    let next := 10 * significand + (d.toNat - 48)
    if next < 0x10000000000000000 then accumulate next rest else (significand, d :: rest)

/-- A double divided by a power of ten, in steps of 10^308 while the power is beyond the
    doubles. -/
def scaleDown (x : Double) (power : Nat) : Double :=
  if power ≤ 308 then x.div (Double.powTen power)
  else if x.isZero then x
  else scaleDown (x.div (Double.powTen 308)) (power - 308)
termination_by power

/-- A double times a power of ten, `none` beyond the largest double. -/
def scaleUp? (x : Double) (power : Nat) : Option Double :=
  if power ≤ 308 then
    let y := x.mul (Double.powTen power)
    if y.isFinite then some y else none
  else if x.isZero then some x
  else none

/-- The double of a significand and a power of ten. -/
def scaled? (significand : Nat) (power : Int) : Option Double :=
  let x := Double.ofNat significand
  if 0 ≤ power then scaleUp? x power.toNat else some (scaleDown x (-power).toNat)

/-- The exponent of ten of a numeral. -/
def power (n : Numeral) : Int :=
  match n.exponent with
  | none => 0
  | some (true, digits) => -(Nat.ofDigitChars 10 digits 0 : Nat)
  | some (false, digits) => (Nat.ofDigitChars 10 digits 0 : Nat)

/-- The double of a numeral. -/
def double? (n : Numeral) : Option Double :=
  let (significand, excess) := accumulate 0 n.whole
  let (significand, unused) := accumulate significand n.fraction
  let power := n.power + excess.length - (n.fraction.length - unused.length : Nat)
  (scaled? significand power).map fun x => if n.negative then x.neg else x

/-- The integer of a numeral that has neither fraction nor exponent and fits 64 bits.  A
    negative zero has none: only the doubles have a second zero. -/
def integer? (n : Numeral) : Option Int :=
  if n.fraction.isEmpty && n.exponent.isNone then
    let m := Nat.ofDigitChars 10 n.whole 0
    if n.negative then
      if 0 < m && m ≤ 0x8000000000000000 then some (-(m : Int)) else none
    else if m < 0x10000000000000000 then some m
    else none
  else none

/-- The number of a numeral, `none` when it is out of range. -/
def value? (n : Numeral) : Option Number :=
  match n.integer? with
  | some i =>
    if h : -0x8000000000000000 ≤ i ∧ i < 0x10000000000000000 then some (.integer i h) else none
  | none => n.double?.bind Number.ofDouble?

/-! ### Progress of the reader -/

theorem readDigits_length {s : List Char} {r : List Char × List Char}
    (h : readDigits s = some r) : r.2.length < s.length := by
  simp only [readDigits] at h
  split at h
  · simp at h
  · rename_i hne
    simp only [Option.some.injEq] at h
    subst h
    have hs : (s.takeWhile Char.isDigit ++ s.dropWhile Char.isDigit).length = s.length := by
      rw [List.takeWhile_append_dropWhile]
    have : (s.takeWhile Char.isDigit).length ≠ 0 := by
      simpa [List.isEmpty_iff] using hne
    simp only [List.length_append] at hs
    simp only
    omega

theorem readWhole_length {s : List Char} {r : List Char × List Char}
    (h : readWhole s = some r) : r.2.length < s.length := by
  unfold readWhole at h
  split at h
  · simp at h
  · exact readDigits_length h

theorem readFraction_length {s : List Char} {r : List Char × List Char}
    (h : readFraction s = some r) : r.2.length ≤ s.length := by
  unfold readFraction at h
  split at h
  · have := readDigits_length h
    simp only [List.length_cons]; omega
  · simp only [Option.some.injEq] at h; subst h; simp

theorem readSign_length (s : List Char) : (readSign s).2.length ≤ s.length := by
  unfold readSign
  split <;> simp

theorem readExponent_length {s : List Char} {r : Option (Bool × List Char) × List Char}
    (h : readExponent s = some r) : r.2.length ≤ s.length := by
  unfold readExponent at h
  split at h
  · rename_i c s
    split at h
    · simp only [Option.map_eq_some_iff] at h
      obtain ⟨d, hd, rfl⟩ := h
      have := readDigits_length hd
      have := readSign_length s
      simp only [List.length_cons]; omega
    · simp only [Option.some.injEq] at h; subst h; simp
  · simp only [Option.some.injEq] at h; subst h; simp

theorem readMinus_length (s : List Char) : (readMinus s).2.length ≤ s.length := by
  unfold readMinus
  split <;> simp

/-- A numeral takes a character at least. -/
theorem read?_length {s : List Char} {n : Numeral} {rest : List Char}
    (h : read? s = some (n, rest)) : rest.length < s.length := by
  have h0 := readMinus_length s
  simp only [read?] at h
  split at h
  · simp at h
  · rename_i hw
    have h1 := readWhole_length hw
    split at h
    · simp at h
    · rename_i hf
      have h2 := readFraction_length hf
      split at h
      · simp at h
      · rename_i he
        have h3 := readExponent_length he
        simp only [Option.some.injEq, Prod.mk.injEq] at h
        obtain ⟨-, rfl⟩ := h
        simp only at h1 h2 h3
        omega

end Numeral

end Telemetry.Json
