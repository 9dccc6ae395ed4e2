import Mathlib.Algebra.Order.Ring.Nat
import Mathlib.Tactic.Linarith
import Mathlib.Tactic.Ring
import Telemetry.Double

namespace Telemetry.Double

/-!
# Rounding

The magnitude of a finite double is a whole number of units of 2^-1074, so that what a
double is, and how far it is from an exact quotient, is said in natural numbers.

* `units`, `ratio_units` — the magnitude in units.
* `unitScale_spec` — the unit of the nearest double leaves a quotient of 53 bits.
* `Rounded`, `exists_rounded_ofRatio` — a rounded quotient: its unit, how many times it is
  taken, and the error of at most one half of it.
* `overflow`, `isFinite_ofRatio` — below the overflow every quotient is a finite double.
* `units_ofNat_bounds`, `isFinite_mul`, `isFinite_div` — naturals, products and quotients.
-/

/-! ### Units -/

/-- The units in one. -/
def unity : Nat := 2 ^ 1074

/-- The least magnitude that rounds to an infinity, half a unit above the largest double. -/
def overflow : Nat := (2 ^ 54 - 1) * 2 ^ 970

/-- How these two compare with powers of two and ten; nothing else is needed of their values. -/
theorem unity_overflow_bounds :
    2 ^ 54 ≤ unity ∧ overflow * unity = (2 ^ 54 - 1) * 2 ^ 2044 ∧ 2 ^ 128 < overflow ∧
      10 ^ 308 < overflow := by
  decide +kernel

/-- A significand is less than the units in one. -/
theorem pow_le_unity : 2 ^ 54 ≤ unity := unity_overflow_bounds.1

theorem unity_pos : 0 < unity := Nat.lt_of_lt_of_le (by decide) pow_le_unity

theorem overflow_mul_unity : overflow * unity = (2 ^ 54 - 1) * 2 ^ 2044 :=
  unity_overflow_bounds.2.1

/-- Integers of 128 bits do not overflow. -/
theorem pow_lt_overflow : 2 ^ 128 < overflow := unity_overflow_bounds.2.2.1

/-- The powers of ten up to 308 do not overflow. -/
theorem powTen_lt_overflow {k : Nat} (hk : k ≤ 308) : 10 ^ k < overflow :=
  calc 10 ^ k ≤ 10 ^ 308 := pow_le_pow_right₀ (by decide) hk
    _ < overflow := unity_overflow_bounds.2.2.2

/-- The magnitude of a finite double, in units of 2^-1074. -/
def units (x : Double) : Nat := x.significand * 2 ^ x.scale

/-- A double is the quotient of its units and the units in one. -/
theorem ratio_units (x : Double) : x.ratio.1 * unity = x.units * x.ratio.2 := by
  unfold ratio units unity
  simp only [Nat.pow_eq]
  by_cases hscale : 1074 ≤ x.scale
  · rw [if_pos hscale, Nat.mul_one, Nat.mul_assoc, ← Nat.pow_add, Nat.sub_add_cancel hscale]
  · rw [if_neg hscale, Nat.mul_assoc, ← Nat.pow_add, Nat.add_sub_cancel' (by omega)]

/-- A double is a fraction with a denominator above zero. -/
theorem ratio_snd_pos (x : Double) : 0 < x.ratio.2 := by
  unfold ratio
  simp only [Nat.pow_eq]
  by_cases hscale : 1074 ≤ x.scale
  · rw [if_pos hscale]
    exact Nat.one_pos
  · rw [if_neg hscale]
    exact Nat.pow_pos (by decide)

/-! ### Words from fields -/

section Fields

variable {negative : Bool} {rest : Nat}

/-- The bits of a double that was put together. -/
theorem toNat_ofFields (h : rest < 0x8000000000000000) :
    (ofFields negative rest).bits.toNat = (if negative then 0x8000000000000000 else 0) + rest := by
  rw [ofFields, UInt64.toNat_ofNat']
  apply Nat.mod_eq_of_lt
  split <;> omega

/-- Its exponent stands above 52 bits. -/
theorem exponent_ofFields (h : rest < 0x8000000000000000) :
    (ofFields negative rest).exponent = rest / 0x10000000000000 := by
  rw [exponent, toNat_ofFields h]
  split <;> omega

/-- Its fraction is the lowest 52 bits. -/
theorem fraction_ofFields (h : rest < 0x8000000000000000) :
    (ofFields negative rest).fraction = rest % 0x10000000000000 := by
  rw [fraction, toNat_ofFields h]
  split <;> omega

/-- A double whose exponent is not the largest is finite. -/
theorem isFinite_ofFields (h : rest < 0x7ff0000000000000) :
    (ofFields negative rest).isFinite = true := by
  rw [isFinite, exponent_ofFields (by omega), bne_iff_ne]
  omega

/-- Scale and count in one number: the hidden bit of the count is the last bit of the
    exponent. -/
theorem units_ofFields {s m : Nat} (hm : m ≤ 2 ^ 53) (hnormal : s = 0 ∨ 2 ^ 52 ≤ m)
    (hrange : s * 0x10000000000000 + m < 0x7ff0000000000000) :
    (ofFields negative (s * 0x10000000000000 + m)).units = m * 2 ^ s := by
  have hword : s * 0x10000000000000 + m < 0x8000000000000000 := by omega
  unfold units significand scale
  rw [exponent_ofFields hword, fraction_ofFields hword]
  -- The count is a subnormal one, one of 53 bits, or the next power of two.
  rcases Nat.lt_or_ge m (2 ^ 52) with hsmall | hlarge
  · have hs : s = 0 := by omega
    have hzero : (s * 0x10000000000000 + m) / 0x10000000000000 = 0 := by omega
    have hmod : (s * 0x10000000000000 + m) % 0x10000000000000 = m := by omega
    rw [hzero, hmod, if_pos rfl, hs]
  · rcases Nat.lt_or_ge m (2 ^ 53) with hlt | hge
    · have hone : (s * 0x10000000000000 + m) / 0x10000000000000 = s + 1 := by omega
      have hmod : 0x10000000000000 + (s * 0x10000000000000 + m) % 0x10000000000000 = m := by
        omega
      rw [hone, if_neg (Nat.succ_ne_zero s), hmod, Nat.add_sub_cancel]
    · have hm' : m = 2 ^ 52 * 2 := by omega
      have htwo : (s * 0x10000000000000 + m) / 0x10000000000000 = s + 2 := by omega
      have hmod : 0x10000000000000 + (s * 0x10000000000000 + m) % 0x10000000000000 = 2 ^ 52 := by
        omega
      have hsub : s + 2 - 1 = s + 1 := by omega
      rw [htwo, if_neg (Nat.succ_ne_zero (s + 1)), hmod, hsub, hm']
      ring

end Fields

/-! ### The nearest natural -/

/-- A rounded quotient is off by at most one half. -/
theorem roundHalfEven_bounds (num : Nat) {den : Nat} (hden : 0 < den) :
    2 * (roundHalfEven num den * den) ≤ 2 * num + den ∧
      2 * num ≤ 2 * (roundHalfEven num den * den) + den := by
  have hdiv := Nat.div_add_mod' num den
  have hmod := Nat.mod_lt num hden
  have hsucc : (num / den + 1) * den = num / den * den + den := Nat.succ_mul _ _
  unfold roundHalfEven
  simp only
  split
  · omega
  · split
    · rw [hsucc]
      omega
    · split
      · omega
      · rw [hsucc]
        omega

/-- Rounding stays within bounds that are naturals. -/
theorem roundHalfEven_le {num den k : Nat} (hden : 0 < den) (h : num ≤ k * den) :
    roundHalfEven num den ≤ k := by
  have hbounds := (roundHalfEven_bounds num hden).1
  by_contra hlt
  have hmul : (k + 1) * den ≤ roundHalfEven num den * den := Nat.mul_le_mul_right den (by omega)
  rw [Nat.succ_mul] at hmul
  omega

/-- What is not above a quotient is not above its rounding. -/
theorem le_roundHalfEven {num den k : Nat} (hden : 0 < den) (h : k * den ≤ num) :
    k ≤ roundHalfEven num den := by
  have hbounds := (roundHalfEven_bounds num hden).2
  by_contra hlt
  have hmul : (roundHalfEven num den + 1) * den ≤ k * den := Nat.mul_le_mul_right den (by omega)
  rw [Nat.succ_mul] at hmul
  omega

/-! ### The unit -/

/-- **The unit of the nearest double.** Over `2^(b - a)` the quotient has 53 bits, and the
    unit is `2^(b - a)`, or `2^-1074` where that is greater. -/
theorem unitScale_spec {num den : Nat} (hnum : 0 < num) (hden : 0 < den) :
    ∃ a b : Nat, 2 ^ (52 + b) * den ≤ num * 2 ^ a ∧ num * 2 ^ a < 2 ^ (53 + b) * den ∧
      unitScale num den = b + 1074 - a := by
  have hnumlow : 2 ^ num.log2 ≤ num := Nat.log2_self_le (by omega)
  have hnumhigh : num < 2 ^ (num.log2 + 1) := Nat.lt_log2_self
  have hdenlow : 2 ^ den.log2 ≤ den := Nat.log2_self_le (by omega)
  have hdenhigh : den < 2 ^ (den.log2 + 1) := Nat.lt_log2_self
  -- The logarithms are off by less than one each, so the first guess leaves 53 or 54 bits.
  let guess : Int := (num.log2 : Int) - den.log2 - 53
  let a := (-guess).toNat
  let b := guess.toNat
  have hlog : num.log2 + a = den.log2 + 53 + b := by omega
  have hpos : 0 < den * 2 ^ b := Nat.mul_pos hden (Nat.pow_pos (by decide))
  have hshifted : (if 0 ≤ guess then num / (den * Nat.pow 2 guess.toNat)
      else num * Nat.pow 2 (-guess).toNat / den) = num * 2 ^ a / (den * 2 ^ b) := by
    by_cases hguess : 0 ≤ guess
    · have ha : a = 0 := by omega
      rw [if_pos hguess, ha, Nat.pow_zero, Nat.mul_one]
      rfl
    · have hb : b = 0 := by omega
      rw [if_neg hguess, hb, Nat.pow_zero, Nat.mul_one]
      rfl
  have hlow : 2 ^ 52 * (den * 2 ^ b) ≤ num * 2 ^ a :=
    calc 2 ^ 52 * (den * 2 ^ b) ≤ 2 ^ 52 * (2 ^ (den.log2 + 1) * 2 ^ b) :=
          Nat.mul_le_mul_left _ (Nat.mul_le_mul_right _ hdenhigh.le)
      _ = 2 ^ (num.log2 + a) := by rw [hlog]; ring
      _ = 2 ^ num.log2 * 2 ^ a := Nat.pow_add ..
      _ ≤ num * 2 ^ a := Nat.mul_le_mul_right _ hnumlow
  have hhigh : num * 2 ^ a < 2 ^ 54 * (den * 2 ^ b) :=
    calc num * 2 ^ a < 2 ^ (num.log2 + 1) * 2 ^ a :=
          Nat.mul_lt_mul_of_pos_right hnumhigh (Nat.pow_pos (by decide))
      _ = 2 ^ (num.log2 + a) * 2 := by ring
      _ = 2 ^ 54 * (2 ^ den.log2 * 2 ^ b) := by rw [hlog]; ring
      _ ≤ 2 ^ 54 * (den * 2 ^ b) := Nat.mul_le_mul_left _ (Nat.mul_le_mul_right _ hdenlow)
  have hscale : unitScale num den =
      ((if 0x20000000000000 ≤ num * 2 ^ a / (den * 2 ^ b) then guess + 1 else guess) +
        1074).toNat := by
    rw [← hshifted]
    rfl
  -- A quotient of 54 bits takes the next unit.
  by_cases hwide : 0x20000000000000 ≤ num * 2 ^ a / (den * 2 ^ b)
  · rw [if_pos hwide] at hscale
    rw [Nat.le_div_iff_mul_le hpos] at hwide
    refine ⟨a, b + 1, ?_, ?_, by omega⟩
    · calc 2 ^ (52 + (b + 1)) * den = 0x20000000000000 * (den * 2 ^ b) := by ring
        _ ≤ num * 2 ^ a := hwide
    · calc num * 2 ^ a < 2 ^ 54 * (den * 2 ^ b) := hhigh
        _ = 2 ^ (53 + (b + 1)) * den := by ring
  · rw [if_neg hwide] at hscale
    rw [Nat.not_le, Nat.div_lt_iff_lt_mul hpos] at hwide
    refine ⟨a, b, ?_, ?_, by omega⟩
    · calc 2 ^ (52 + b) * den = 2 ^ 52 * (den * 2 ^ b) := by ring
        _ ≤ num * 2 ^ a := hlow
    · calc num * 2 ^ a < 0x20000000000000 * (den * 2 ^ b) := hwide
        _ = 2 ^ (53 + b) * den := by ring

/-- The same with any other power in the place of 2^1074. -/
theorem bounds_of_scale {num den a b s t : Nat} (hlow : 2 ^ (52 + b) * den ≤ num * 2 ^ a)
    (hhigh : num * 2 ^ a < 2 ^ (53 + b) * den) (hs : s = b + t - a) :
    num * 2 ^ t < 2 ^ (53 + s) * den ∧ (s = 0 ∨ 2 ^ (52 + s) * den ≤ num * 2 ^ t) := by
  have hpos : 0 < 2 ^ a := Nat.pow_pos (by decide)
  refine ⟨?_, ?_⟩
  · refine Nat.lt_of_mul_lt_mul_right (a := 2 ^ a) ?_
    calc num * 2 ^ t * 2 ^ a = num * 2 ^ a * 2 ^ t := Nat.mul_right_comm ..
      _ < 2 ^ (53 + b) * den * 2 ^ t := Nat.mul_lt_mul_of_pos_right hhigh (Nat.pow_pos (by decide))
      _ = 2 ^ (53 + (b + t)) * den := by ring
      _ ≤ 2 ^ (53 + (s + a)) * den :=
          Nat.mul_le_mul_right _ (Nat.pow_le_pow_right (by decide) (by omega))
      _ = 2 ^ (53 + s) * den * 2 ^ a := by ring
  · rcases Nat.eq_zero_or_pos s with hzero | hscale
    · exact .inl hzero
    · right
      have hsum : s + a = b + t := by omega
      refine Nat.le_of_mul_le_mul_right ?_ hpos
      calc 2 ^ (52 + s) * den * 2 ^ a = 2 ^ (52 + (s + a)) * den := by ring
        _ = 2 ^ (52 + b) * den * 2 ^ t := by rw [hsum]; ring
        _ ≤ num * 2 ^ a * 2 ^ t := Nat.mul_le_mul_right _ hlow
        _ = num * 2 ^ t * 2 ^ a := Nat.mul_right_comm ..

/-! ### Rounded quotients -/

/-- The quotient `num / den` is rounded to `m * 2^s`, with 53 bits in `m`. -/
structure Rounded (num den s m : Nat) : Prop where
  le : m ≤ 2 ^ 53
  normal : s = 0 ∨ 2 ^ 52 ≤ m
  low : s = 0 ∨ 2 ^ (52 + s) * den ≤ num
  upper : 2 * (m * 2 ^ s * den) ≤ 2 * num + 2 ^ s * den
  lower : 2 * num ≤ 2 * (m * 2 ^ s * den) + 2 ^ s * den

/-- Rounding the quotient over the unit, written as a quotient of naturals. -/
theorem rounded_roundHalfEven {num den s n d : Nat} (hden : 0 < den) (hd : 0 < d)
    (hquot : n * (2 ^ s * den) = num * d) (hhigh : num < 2 ^ (53 + s) * den)
    (hlow : s = 0 ∨ 2 ^ (52 + s) * den ≤ num) : Rounded num den s (roundHalfEven n d) := by
  have hunit : 0 < 2 ^ s * den := Nat.mul_pos (Nat.pow_pos (by decide)) hden
  obtain ⟨hupper, hlower⟩ := roundHalfEven_bounds n hd
  -- Each bound is that of `n / d`, times the unit and the denominators.
  refine ⟨roundHalfEven_le hd ?_, ?_, hlow, ?_, ?_⟩
  · refine Nat.le_of_mul_le_mul_right ?_ hunit
    calc n * (2 ^ s * den) = num * d := hquot
      _ ≤ 2 ^ (53 + s) * den * d := Nat.mul_le_mul_right _ hhigh.le
      _ = 2 ^ 53 * d * (2 ^ s * den) := by ring
  · rcases hlow with hzero | hlow
    · exact .inl hzero
    · right
      refine le_roundHalfEven hd (Nat.le_of_mul_le_mul_right ?_ hunit)
      calc 2 ^ 52 * d * (2 ^ s * den) = 2 ^ (52 + s) * den * d := by ring
        _ ≤ num * d := Nat.mul_le_mul_right _ hlow
        _ = n * (2 ^ s * den) := hquot.symm
  · refine Nat.le_of_mul_le_mul_right ?_ hd
    calc 2 * (roundHalfEven n d * 2 ^ s * den) * d =
          2 * (roundHalfEven n d * d) * (2 ^ s * den) := by ring
      _ ≤ (2 * n + d) * (2 ^ s * den) := Nat.mul_le_mul_right _ hupper
      _ = 2 * (n * (2 ^ s * den)) + 2 ^ s * den * d := by ring
      _ = (2 * num + 2 ^ s * den) * d := by rw [hquot]; ring
  · refine Nat.le_of_mul_le_mul_right ?_ hd
    calc 2 * num * d = 2 * n * (2 ^ s * den) := by rw [Nat.mul_assoc 2 n, hquot, Nat.mul_assoc]
      _ ≤ (2 * (roundHalfEven n d * d) + d) * (2 ^ s * den) := Nat.mul_le_mul_right _ hlower
      _ = (2 * (roundHalfEven n d * 2 ^ s * den) + 2 ^ s * den) * d := by ring

/-- **The nearest double of a quotient** is its word of scale and count, or an infinity. -/
theorem exists_rounded_ofRatio {num den : Nat} (hnum : 0 < num) (hden : 0 < den) :
    ∃ s m, Rounded (num * unity) den s m ∧ ∀ negative, ofRatio negative num den =
      ofFields negative (min (s * 0x10000000000000 + m) 0x7ff0000000000000) := by
  obtain ⟨a, b, hlow, hhigh, hscale⟩ := unitScale_spec hnum hden
  obtain ⟨hhigh', hlow'⟩ := bounds_of_scale hlow hhigh hscale
  unfold unity
  have hofRatio : ∀ negative, ofRatio negative num den = ofFields negative
      (min (unitScale num den * 0x10000000000000 +
        if 1074 ≤ unitScale num den then
          roundHalfEven num (den * 2 ^ (unitScale num den - 1074))
        else roundHalfEven (num * 2 ^ (1074 - unitScale num den)) den) 0x7ff0000000000000) := by
    intro negative
    rw [ofRatio, if_neg (by omega)]
    rfl
  generalize unitScale num den = s at *
  refine ⟨s, _, ?_, hofRatio⟩
  -- A unit above one goes to the denominator, and one below it to the numerator.
  by_cases hs : 1074 ≤ s
  · rw [if_pos hs]
    have hpow : 2 ^ s = 2 ^ 1074 * 2 ^ (s - 1074) := by
      rw [← Nat.pow_add, Nat.add_sub_cancel' hs]
    refine rounded_roundHalfEven hden (Nat.mul_pos hden (Nat.pow_pos (by decide))) ?_ hhigh' hlow'
    rw [hpow, Nat.mul_assoc, Nat.mul_assoc, Nat.mul_comm den]
  · rw [if_neg hs]
    have hpow : 2 ^ 1074 = 2 ^ (1074 - s) * 2 ^ s := by
      rw [← Nat.pow_add, Nat.sub_add_cancel (by omega)]
    refine rounded_roundHalfEven hden hden ?_ hhigh' hlow'
    rw [hpow, Nat.mul_assoc, Nat.mul_assoc, Nat.mul_assoc]

/-! ### Overflow and error -/

namespace Rounded

variable {num den s m : Nat}

/-- The word of a quotient below half a unit above the last double of a binade. -/
theorem scale_le {e : Nat} (h : Rounded num den s m) (hden : 0 < den)
    (hnum : num < (2 ^ 54 - 1) * 2 ^ e * den) : s ≤ e + 1 ∧ (s = e + 1 → m < 2 ^ 53) := by
  constructor
  · rcases h.low with hzero | hlow
    · omega
    · have hlt : 2 ^ (52 + s) * den < 2 ^ (54 + e) * den :=
        calc 2 ^ (52 + s) * den ≤ num := hlow
          _ < (2 ^ 54 - 1) * 2 ^ e * den := hnum
          _ ≤ 2 ^ 54 * 2 ^ e * den :=
              Nat.mul_le_mul_right _ (Nat.mul_le_mul_right _ (Nat.sub_le _ _))
          _ = 2 ^ (54 + e) * den := by rw [Nat.pow_add]
      have hexp := (Nat.pow_lt_pow_iff_right (by decide)).1 (Nat.lt_of_mul_lt_mul_right hlt)
      omega
  · -- In the last binade the count must not reach the next power of two.
    rintro rfl
    have hunit : 0 < 2 ^ e * den := Nat.mul_pos (Nat.pow_pos (by decide)) hden
    have hupper : 4 * (m * (2 ^ e * den)) ≤ 2 * num + 2 * (2 ^ e * den) :=
      calc 4 * (m * (2 ^ e * den)) = 2 * (m * 2 ^ (e + 1) * den) := by ring
        _ ≤ 2 * num + 2 ^ (e + 1) * den := h.upper
        _ = 2 * num + 2 * (2 ^ e * den) := by ring
    rw [Nat.mul_assoc] at hnum
    by_contra hge
    have hmul : 2 ^ 53 * (2 ^ e * den) ≤ m * (2 ^ e * den) := Nat.mul_le_mul_right _ (by omega)
    omega

/-- A quotient that is not tiny has 53 bits. -/
theorem low_of_le (h : Rounded num den s m) (hnum : 2 ^ 54 * den ≤ num) :
    2 ^ (52 + s) * den ≤ num := by
  rcases h.low with rfl | hlow
  · have hmul : m * den ≤ 2 ^ 53 * den := Nat.mul_le_mul_right den h.le
    have hlower := h.lower
    rw [Nat.pow_zero, Nat.mul_one, Nat.one_mul] at hlower
    omega
  · exact hlow

/-- The relative error is at most 2^-53. -/
theorem relative (h : Rounded num den s m) (hnum : 2 ^ 54 * den ≤ num) :
    2 ^ 53 * (m * 2 ^ s * den) ≤ (2 ^ 53 + 1) * num ∧
      (2 ^ 53 - 1) * num ≤ 2 ^ 53 * (m * 2 ^ s * den) := by
  have hunit : 2 ^ 52 * (2 ^ s * den) ≤ num := by
    rw [← Nat.mul_assoc, ← Nat.pow_add]
    exact h.low_of_le hnum
  have hupper := h.upper
  have hlower := h.lower
  omega

/-- Tiny or not, the rounded quotient is at most twice the quotient and one. -/
theorem le_twice (h : Rounded num den s m) : m * 2 ^ s * den ≤ 2 * num + den := by
  have hupper := h.upper
  rcases h.low with rfl | hlow
  · rw [Nat.pow_zero, Nat.one_mul] at hupper
    rw [Nat.pow_zero]
    omega
  · rw [Nat.pow_add, Nat.mul_assoc] at hlow
    omega

end Rounded

/-! ### Arithmetic -/

section Arithmetic

variable {num den : Nat} {x y : Double}

/-- What is below the overflow is a finite double, and its units are the rounded quotient. -/
theorem exists_units_ofRatio (hnum : 0 < num) (hden : 0 < den) (h : num < overflow * den) :
    ∃ s m, Rounded (num * unity) den s m ∧ ∀ negative,
      (ofRatio negative num den).isFinite = true ∧
        (ofRatio negative num den).units = m * 2 ^ s := by
  obtain ⟨s, m, hround, heq⟩ := exists_rounded_ofRatio hnum hden
  have hlt : num * unity < (2 ^ 54 - 1) * 2 ^ 2044 * den := by
    rw [← overflow_mul_unity, Nat.mul_right_comm]
    exact Nat.mul_lt_mul_of_pos_right h unity_pos
  have hword : s * 0x10000000000000 + m < 0x7ff0000000000000 := by
    obtain ⟨hs, hm⟩ := hround.scale_le hden hlt
    have hle := hround.le
    rcases Nat.lt_or_eq_of_le hs with hlast | hlast
    · omega
    · have := hm hlast
      omega
  refine ⟨s, m, hround, fun negative => ?_⟩
  rw [heq, Nat.min_eq_left hword.le]
  exact ⟨isFinite_ofFields hword, units_ofFields hround.le hround.normal hword⟩

/-- A quotient below the overflow rounds to a finite double. -/
theorem isFinite_ofRatio (negative : Bool) (hden : 0 < den) (h : num < overflow * den) :
    (ofRatio negative num den).isFinite = true := by
  rcases Nat.eq_zero_or_pos num with rfl | hnum
  · exact isFinite_ofFields (by decide)
  · obtain ⟨s, m, -, hfinite⟩ := exists_units_ofRatio hnum hden h
    exact (hfinite negative).1

/-- The units of a rounded quotient are at most twice the exact quotient and one more. -/
theorem units_ofRatio_le (negative : Bool) (hden : 0 < den) (h : num < overflow * den) :
    (ofRatio negative num den).units * den ≤ 2 * (num * unity) + den := by
  rcases Nat.eq_zero_or_pos num with rfl | hnum
  · have hzero : (ofRatio negative 0 den).units = 0 :=
      units_ofFields (s := 0) (m := 0) (by decide) (.inl rfl) (by decide)
    rw [hzero, Nat.zero_mul]
    exact Nat.zero_le _
  · obtain ⟨s, m, hround, hunits⟩ := exists_units_ofRatio hnum hden h
    rw [(hunits negative).2]
    exact hround.le_twice

/-- **Naturals** are rounded with a relative error of at most 2^-53. -/
theorem units_ofNat_bounds {n : Nat} (hn : 0 < n) (h : n < overflow) :
    2 ^ 53 * (ofNat n).units ≤ (2 ^ 53 + 1) * (n * unity) ∧
      (2 ^ 53 - 1) * (n * unity) ≤ 2 ^ 53 * (ofNat n).units := by
  obtain ⟨s, m, hround, hunits⟩ := exists_units_ofRatio hn Nat.one_pos (by rwa [Nat.mul_one])
  have hlarge : 2 ^ 54 * 1 ≤ n * unity :=
    calc 2 ^ 54 * 1 = 1 * 2 ^ 54 := Nat.mul_comm ..
      _ ≤ n * unity := Nat.mul_le_mul hn pow_le_unity
  have hrelative := hround.relative hlarge
  rw [Nat.mul_one] at hrelative
  rw [ofNat, (hunits false).2]
  exact hrelative

/-- An integer below the overflow rounds to a finite double. -/
theorem isFinite_ofNat {n : Nat} (h : n < overflow) : (ofNat n).isFinite = true :=
  isFinite_ofRatio false Nat.one_pos (by rwa [Nat.mul_one])

/-- A product below the overflow is finite. -/
theorem isFinite_mul (h : x.units * y.units < overflow * unity * unity) :
    (x.mul y).isFinite = true := by
  have hden := Nat.mul_pos (ratio_snd_pos x) (ratio_snd_pos y)
  refine isFinite_ofRatio _ hden (Nat.lt_of_mul_lt_mul_right (a := unity * unity) ?_)
  calc x.ratio.1 * y.ratio.1 * (unity * unity) = x.ratio.1 * unity * (y.ratio.1 * unity) := by ring
    _ = x.units * y.units * (x.ratio.2 * y.ratio.2) := by rw [ratio_units, ratio_units]; ring
    _ < overflow * unity * unity * (x.ratio.2 * y.ratio.2) := Nat.mul_lt_mul_of_pos_right h hden
    _ = overflow * (x.ratio.2 * y.ratio.2) * (unity * unity) := by ring

theorem ratio_fst_pos (hx : 0 < x.units) : 0 < x.ratio.1 := by
  have hpos := Nat.mul_pos hx (ratio_snd_pos x)
  rw [← ratio_units] at hpos
  exact Nat.pos_of_mul_pos_right hpos

/-- A quotient below the overflow is finite, and its units are at most twice the exact
    quotient and one. -/
theorem isFinite_div (hy : 0 < y.units) (h : x.units < overflow * y.units) :
    (x.div y).isFinite = true ∧
      (x.div y).units * y.units ≤ 2 * (x.units * unity) + y.units := by
  have hy1 := ratio_fst_pos hy
  have hy2 := ratio_snd_pos y
  have hx2 := ratio_snd_pos x
  have hden : 0 < x.ratio.2 * y.ratio.1 := Nat.mul_pos hx2 hy1
  -- The bound on the units is one on the fraction that is rounded.
  have hlt : x.ratio.1 * y.ratio.2 < overflow * (x.ratio.2 * y.ratio.1) := by
    refine Nat.lt_of_mul_lt_mul_right (a := unity) ?_
    calc x.ratio.1 * y.ratio.2 * unity = x.ratio.1 * unity * y.ratio.2 := by ring
      _ = x.units * (x.ratio.2 * y.ratio.2) := by rw [ratio_units]; ring
      _ < overflow * y.units * (x.ratio.2 * y.ratio.2) :=
          Nat.mul_lt_mul_of_pos_right h (Nat.mul_pos hx2 hy2)
      _ = overflow * x.ratio.2 * (y.units * y.ratio.2) := by ring
      _ = overflow * (x.ratio.2 * y.ratio.1) * unity := by rw [← ratio_units]; ring
  refine ⟨isFinite_ofRatio _ hden hlt, ?_⟩
  -- Both sides are multiplied by the denominators, and the units are told by the fractions.
  have hle := units_ofRatio_le (x.negative != y.negative) hden hlt
  refine Nat.le_of_mul_le_mul_right ?_ (Nat.mul_pos hx2 hy2)
  calc (x.div y).units * y.units * (x.ratio.2 * y.ratio.2) =
        (x.div y).units * x.ratio.2 * (y.units * y.ratio.2) := by ring
    _ = (x.div y).units * (x.ratio.2 * y.ratio.1) * unity := by rw [← ratio_units]; ring
    _ ≤ (2 * (x.ratio.1 * y.ratio.2 * unity) + x.ratio.2 * y.ratio.1) * unity :=
        Nat.mul_le_mul_right _ hle
    _ = 2 * (x.ratio.1 * unity * y.ratio.2 * unity) + x.ratio.2 * (y.ratio.1 * unity) := by ring
    _ = (2 * (x.units * unity) + y.units) * (x.ratio.2 * y.ratio.2) := by
        rw [ratio_units, ratio_units]
        ring

end Arithmetic

end Telemetry.Double
