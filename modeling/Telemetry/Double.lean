namespace Telemetry

/-!
# Double — binary64 numbers as words

A `Double` is the 64-bit word of an IEEE-754 binary64 number.  Everything below
works on the three fields of the word and on exact quotients of naturals, so each
operation is computed exactly and rounded once.

* `Double.same` — IEEE comparison: a NaN equals nothing, the two zeros are equal.
* `Double.ofRatio` — the nearest double to a quotient, a tie going to the even one.
* `Double.mul`, `Double.div` — the exact result rounded once.
* `Double.floor?` — the integer below a finite double.
-/

/-- A binary64 number, by its bits. -/
structure Double where
  bits : UInt64
deriving DecidableEq, Repr, Inhabited

namespace Double

/-! ### Fields of the word -/

/-- The sign bit. -/
def negative (x : Double) : Bool := decide (0x8000000000000000 ≤ x.bits.toNat)

/-- The biased exponent, below 2048. -/
def exponent (x : Double) : Nat := x.bits.toNat / 0x10000000000000 % 0x800

/-- The stored fraction, below 2^52. -/
def fraction (x : Double) : Nat := x.bits.toNat % 0x10000000000000

/-- Neither a NaN nor an infinity. -/
def isFinite (x : Double) : Bool := x.exponent != 2047

/-- Not a number. -/
def isNaN (x : Double) : Bool := x.exponent == 2047 && x.fraction != 0

/-- A zero of either sign. -/
def isZero (x : Double) : Bool := x.bits.toNat % 0x8000000000000000 == 0

/-- IEEE equality: a NaN is unequal to everything, and zeros are equal whatever their sign. -/
def same (x y : Double) : Bool :=
  !x.isNaN && !y.isNaN && (x.bits == y.bits || (x.isZero && y.isZero))

/-- The word with the given sign and the given lower 63 bits. -/
def ofFields (negative : Bool) (rest : Nat) : Double :=
  ⟨UInt64.ofNat ((if negative then 0x8000000000000000 else 0) + rest)⟩

/-- The same number with the other sign. -/
def neg (x : Double) : Double := ofFields (!x.negative) (x.bits.toNat % 0x8000000000000000)

/-! ### Exact magnitude of a finite double -/

/-- The integer significand: the hidden bit is present unless the number is subnormal. -/
def significand (x : Double) : Nat :=
  if x.exponent = 0 then x.fraction else 0x10000000000000 + x.fraction

/-- The power of two of one unit of the significand, plus 1074. -/
def scale (x : Double) : Nat := x.exponent - 1

/-- Numerator and denominator of the magnitude of a finite double. -/
def ratio (x : Double) : Nat × Nat :=
  if 1074 ≤ x.scale then (x.significand * Nat.pow 2 (x.scale - 1074), 1)
  else (x.significand, Nat.pow 2 (1074 - x.scale))

/-! ### Rounding -/

/-- The quotient rounded to the nearest natural, a tie going to the even one. -/
def roundHalfEven (num den : Nat) : Nat :=
  let q := num / den
  let r := num % den
  if 2 * r < den then q
  else if den < 2 * r then q + 1
  else if q % 2 = 0 then q else q + 1

/-- The position of the unit of the nearest double to `num / den`, plus 1074.
    It leaves a 53-bit quotient, except below the normal range. -/
def unitScale (num den : Nat) : Nat :=
  let guess : Int := (num.log2 : Int) - den.log2 - 53
  let shifted : Nat :=
    if 0 ≤ guess then num / (den * Nat.pow 2 guess.toNat) else num * Nat.pow 2 (-guess).toNat / den
  let unit := if 0x20000000000000 ≤ shifted then guess + 1 else guess
  (unit + 1074).toNat

/-- The nearest double to `num / den`, with the given sign; beyond the largest finite
    double it is an infinity. -/
def ofRatio (negative : Bool) (num den : Nat) : Double :=
  if num = 0 then ofFields negative 0
  else
    let s := unitScale num den
    let m :=
      if 1074 ≤ s then roundHalfEven num (den * Nat.pow 2 (s - 1074))
      else roundHalfEven (num * Nat.pow 2 (1074 - s)) den
    ofFields negative (min (s * 0x10000000000000 + m) (0x7ff0000000000000))

/-- The nearest double to a natural number. -/
def ofNat (n : Nat) : Double := ofRatio false n 1

/-- Product of finite doubles. -/
def mul (x y : Double) : Double :=
  ofRatio (x.negative != y.negative) (x.ratio.1 * y.ratio.1) (x.ratio.2 * y.ratio.2)

/-- Quotient of finite doubles, the divisor being nonzero. -/
def div (x y : Double) : Double :=
  ofRatio (x.negative != y.negative) (x.ratio.1 * y.ratio.2) (x.ratio.2 * y.ratio.1)

/-- The double nearest to 10 to the given power. -/
def powTen (e : Nat) : Double := ofNat (Nat.pow 10 e)

/-! ### Integer parts -/

/-- The greatest integer not above a finite double, and the exact fraction left over
    as numerator and denominator. -/
def floorParts (x : Double) : Int × Nat × Nat :=
  let (num, den) := x.ratio
  if x.negative then
    let below : Nat := (num + den - 1) / den
    (-(below : Int), below * den - num, den)
  else ((num / den : Nat), num % den, den)

/-! ### Single precision -/

/-- The double equal to a binary32 number, given by its bits. -/
def ofSingle (word : Nat) : Double :=
  let negative : Bool := decide (0x80000000 ≤ word)
  let exponent := word / 0x800000 % 0x100
  let fraction := word % 0x800000
  if exponent = 255 then ofFields negative (0x7ff0000000000000 + fraction * 0x20000000)
  else if exponent = 0 then ofRatio negative fraction (Nat.pow 2 149)
  else ofFields negative ((exponent + 896) * 0x10000000000000 + fraction * 0x20000000)

/-! ### Laws of the comparison -/

/-- Doubles are equal in both directions. -/
theorem same_comm (x y : Double) : x.same y = y.same x := by
  simp only [same, Bool.beq_comm (a := x.bits)]
  cases x.isNaN <;> cases y.isNaN <;> cases x.isZero <;> cases y.isZero <;> rfl

/-- A double equals itself unless it is a NaN. -/
theorem same_self (x : Double) : x.same x = !x.isNaN := by
  simp [same]

/-- A zero is no NaN. -/
theorem isZero_not_isNaN {x : Double} (h : x.isZero = true) : x.isNaN = false := by
  simp only [isZero, beq_iff_eq] at h
  simp only [isNaN, exponent, fraction, Bool.and_eq_false_iff, bne_eq_false_iff_eq]
  right; omega

/-- Equality goes on from one double to the next; only for the zeros is this not that of bits. -/
theorem same_trans {x y z : Double} (hxy : x.same y = true) (hyz : y.same z = true) :
    x.same z = true := by
  simp only [same, Bool.and_eq_true, Bool.or_eq_true, Bool.not_eq_true', beq_iff_eq] at *
  refine ⟨⟨hxy.1.1, hyz.1.2⟩, ?_⟩
  rcases hxy.2 with hxy' | hxy' <;> rcases hyz.2 with hyz' | hyz'
  · exact .inl (hxy'.trans hyz')
  · cases x; cases y; simp only at hxy'; subst hxy'; exact .inr hyz'
  · cases y; cases z; simp only at hyz'; subst hyz'; exact .inr hxy'
  · exact .inr ⟨hxy'.1, hyz'.2⟩

end Double

end Telemetry
