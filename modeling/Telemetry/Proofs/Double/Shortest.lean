import Mathlib.Algebra.Order.Field.Power
import Mathlib.Algebra.Order.Ring.Rat
import Mathlib.Tactic.LinearCombination
import Mathlib.Tactic.Positivity
import Telemetry.Proofs.Double.Reading

namespace Telemetry

/-!
# Shortest decimals tell doubles apart

The decimal that is written for a double lies among the reals that round to it, and those of
different doubles are disjoint.  So no two finite doubles have one text.

* `gridPoint?_shortest` — the search for the shortest decimal finds one: the last of its grids
  is finer than half a unit of the double.
* `Rounds` — a rational rounds to the magnitude of a double; `rounds_shortest` — the shortest
  decimal does.
* `Rounds.disjoint` — no rational rounds to two magnitudes.
* `numeral_inj` — so the numeral of a finite double determines it.
-/

open Json (Numeral)

/-! ### Decimals -/

/-- The rational of digits and exponent. -/
def decimal (n : Nat) (p : Int) : ℚ := n * 10 ^ p

/-- A decimal in terms of two powers, one of which is 1. -/
theorem decimal_mul_pow (n : Nat) (p : Int) :
    decimal n p * 10 ^ (-p).toNat = n * 10 ^ p.toNat := by
  have hten : (10 : ℚ) ≠ 0 := by norm_num
  rw [decimal, mul_assoc, ← zpow_natCast, ← zpow_natCast, ← zpow_add₀ hten]
  congr 2
  omega

/-- Trailing zeros go into the exponent. -/
theorem decimal_mul_powTen (n k : Nat) (p : Int) : decimal (n * 10 ^ k) p = decimal n (p + k) := by
  have hten : (10 : ℚ) ≠ 0 := by norm_num
  rw [decimal, decimal, zpow_add₀ hten, zpow_natCast]
  push_cast
  ring

/-- What a numeral stands for, but for its sign. -/
def Json.Numeral.magnitude (n : Numeral) : ℚ :=
  decimal (Nat.ofDigitChars 10 (n.whole ++ n.fraction) 0) (n.power - n.fraction.length)

namespace Double

/-! ### Powers of two and of ten -/

/-- Ten powers of two hold three powers of ten. -/
theorem powTen_le_powTwo {p t : Nat} (h : 10 * p ≤ 3 * t) : 10 ^ p ≤ 2 ^ t := by
  refine (Nat.pow_le_pow_iff_left (n := 10) (by decide)).1 ?_
  calc (10 ^ p) ^ 10 = 10 ^ (10 * p) := by rw [← Nat.pow_mul, Nat.mul_comm]
    _ ≤ 10 ^ (3 * t) := Nat.pow_le_pow_right (by decide) h
    _ = (10 ^ 3) ^ t := Nat.pow_mul ..
    _ ≤ (2 ^ 10) ^ t := Nat.pow_le_pow_left (by decide) t
    _ = (2 ^ t) ^ 10 := by rw [← Nat.pow_mul, ← Nat.pow_mul, Nat.mul_comm]

/-- Sixteen powers of ten hold fifty-three powers of two. -/
theorem powTwo_le_powTen {p t : Nat} (h : 16 * t ≤ 53 * p) : 2 ^ t ≤ 10 ^ p := by
  refine (Nat.pow_le_pow_iff_left (n := 53) (by decide)).1 ?_
  calc (2 ^ t) ^ 53 = (2 ^ 53) ^ t := by rw [← Nat.pow_mul, ← Nat.pow_mul, Nat.mul_comm]
    _ ≤ (10 ^ 16) ^ t := Nat.pow_le_pow_left (by decide) t
    _ = 10 ^ (16 * t) := (Nat.pow_mul ..).symm
    _ ≤ 10 ^ (53 * p) := Nat.pow_le_pow_right (by decide) h
    _ = (10 ^ p) ^ 53 := by rw [← Nat.pow_mul, Nat.mul_comm]

/-! ### The search finds a point -/

namespace RoundingRange

/-- What lies strictly between the ends of a range is in it. -/
theorem holds_of_lt {r : RoundingRange} {point : Nat} (hlow : r.low < point)
    (hhigh : point < r.high) : r.holds point = true := by
  unfold holds
  split
  · simp only [Bool.and_eq_true, decide_eq_true_eq]
    omega
  · simp only [Bool.and_eq_true, decide_eq_true_eq]
    omega

/-- A grid that is no wider than the lower half of a range has a point in it. -/
theorem isSome_gridPoint? {r : RoundingRange} {p : Int} (hden : 0 < r.den)
    (hhigh : r.mid < r.high)
    (hstep : r.low * 10 ^ (-p).toNat + r.den * 10 ^ p.toNat ≤ r.mid * 10 ^ (-p).toNat) :
    (r.gridPoint? p).isSome = true := by
  have hpos : 0 < r.den * 10 ^ p.toNat := Nat.mul_pos hden (Nat.pow_pos (by decide))
  have htop : r.mid * 10 ^ (-p).toNat < r.high * 10 ^ (-p).toNat :=
    Nat.mul_lt_mul_of_pos_right hhigh (Nat.pow_pos (by decide))
  -- The point below the middle is less than one step away from it.
  have hbelow : (r.times (10 ^ (-p).toNat)).holds
      (r.mid * 10 ^ (-p).toNat / (r.den * 10 ^ p.toNat) * (r.den * 10 ^ p.toNat)) = true := by
    have hle := Nat.div_mul_le_self (r.mid * 10 ^ (-p).toNat) (r.den * 10 ^ p.toNat)
    have hlt := Nat.lt_div_mul_add (a := r.mid * 10 ^ (-p).toNat) hpos
    refine holds_of_lt ?_ ?_
    · simp only [times]
      omega
    · simp only [times]
      omega
  simp only [gridPoint?, Nat.pow_eq]
  split
  · rename_i hnone _
    exact absurd (hbelow.symm.trans hnone) (by decide)
  · rfl
  · rfl
  · split
    · rfl
    · split
      · rfl
      · split <;> rfl

/-- The search finds a point if one of its grids has one. -/
theorem isSome_firstPoint? {r : RoundingRange} {p : Int} {k grids : Nat} (hk : k < grids)
    (h : (r.gridPoint? (p - k)).isSome = true) : (r.firstPoint? p grids).isSome = true := by
  induction grids generalizing p k with
  | zero => omega
  | succ grids ih =>
    rw [firstPoint?]
    split
    · rfl
    · rename_i hnone
      cases k with
      | zero =>
        rw [Int.natCast_zero, Int.sub_zero, hnone] at h
        exact absurd h (by decide)
      | succ k =>
        refine ih (p := p - 1) (k := k) (by omega) ?_
        rw [show p - 1 - (k : Int) = p - (k + 1 : Nat) by omega]
        exact h

end RoundingRange

/-- The leading power is at most the bits of the magnitude, in decimal digits. -/
theorem leadingPower_le {x : Double} (h : x.isZero = false) :
    x.roundingRange.leadingPower ≤ ((x.scale : Int) - 1021) * 30103 / 100000 + 1 := by
  have hm := significand_pos h
  have hmid : x.roundingRange.mid < 2 ^ (55 + (x.scale - 1076)) := by
    have hlt : 4 * x.significand < 2 ^ 55 := by
      have := significand_lt x
      omega
    rw [Nat.pow_add]
    exact Nat.mul_lt_mul_of_pos_right hlt (Nat.pow_pos (by decide))
  have hne : x.roundingRange.mid ≠ 0 :=
    Nat.mul_ne_zero (by omega) (Nat.pos_iff_ne_zero.1 (Nat.pow_pos (by decide)))
  have hlog := (Nat.log2_lt hne).2 hmid
  have hden : x.roundingRange.den.log2 = 1076 - x.scale := Nat.log2_two_pow
  rw [RoundingRange.leadingPower, hden]
  omega

/-- **The search for the shortest decimal finds one.** The last grid is finer than the distance
    to the next double, which is at least `2^(scale - 1076)`. -/
theorem gridPoint?_shortest {x : Double} (hx : x.isFinite = true) (h : x.isZero = false) :
    x.roundingRange.gridPoint? x.shortest.2 = some x.shortest.1 := by
  have hfound : (x.roundingRange.firstPoint? x.roundingRange.leadingPower 20).isSome = true := by
    refine RoundingRange.isSome_firstPoint? (k := 19) (by decide) ?_
    have hscale : x.scale ≤ 2045 := by
      have := exponent_le hx
      rw [scale]
      omega
    have hlead := leadingPower_le h
    have hm := significand_pos h
    generalize hp : x.roundingRange.leadingPower - (19 : Nat) = p
    have hunit : 0 < 2 ^ (x.scale - 1076) := Nat.pow_pos (by decide)
    have hgrid : 2 ^ (1076 - x.scale) * 10 ^ p.toNat ≤ 2 ^ (x.scale - 1076) * 10 ^ (-p).toNat := by
      -- Above one unit a power of ten is below one of two, and the other way round below it.
      rcases Nat.le_total 1076 x.scale with hge | hle
      · rw [Nat.sub_eq_zero_of_le hge, Nat.pow_zero, Nat.one_mul]
        have hpow : 10 ^ p.toNat ≤ 2 ^ (x.scale - 1076) := powTen_le_powTwo (by omega)
        exact Nat.le_trans hpow (Nat.le_mul_of_pos_right _ (Nat.pow_pos (by decide)))
      · have hp0 : p.toNat = 0 := by omega
        rw [Nat.sub_eq_zero_of_le hle, Nat.pow_zero, Nat.one_mul, hp0, Nat.pow_zero, Nat.mul_one]
        exact powTwo_le_powTen (by omega)
    refine RoundingRange.isSome_gridPoint? (Nat.pow_pos (by decide)) ?_ ?_
    · exact Nat.mul_lt_mul_of_pos_right (by omega) hunit
    · -- The middle is at least one unit above the lower end.
      have hgap : x.roundingRange.low + 2 ^ (x.scale - 1076) ≤ x.roundingRange.mid := by
        simp only [roundingRange, Nat.pow_eq]
        rw [← Nat.succ_mul]
        refine Nat.mul_le_mul_right _ ?_
        split <;> omega
      calc x.roundingRange.low * 10 ^ (-p).toNat + x.roundingRange.den * 10 ^ p.toNat
          ≤ x.roundingRange.low * 10 ^ (-p).toNat + 2 ^ (x.scale - 1076) * 10 ^ (-p).toNat :=
            Nat.add_le_add_left hgrid _
        _ = (x.roundingRange.low + 2 ^ (x.scale - 1076)) * 10 ^ (-p).toNat :=
            (Nat.add_mul ..).symm
        _ ≤ x.roundingRange.mid * 10 ^ (-p).toNat := Nat.mul_le_mul_right _ hgap
  obtain ⟨⟨n, q⟩, hpoint⟩ := Option.isSome_iff_exists.1 hfound
  rw [shortest, hpoint]
  exact RoundingRange.gridPoint?_of_firstPoint? hpoint

/-! ### What rounds to a double -/

/-- The quarter units in one: the ends of all rounding ranges are whole numbers of 2^-1076. -/
def quarters : Nat := 4 * unity

theorem quarters_pos : (0 : ℚ) < quarters := by
  have hpos : 0 < quarters := Nat.mul_pos (by decide) unity_pos
  exact_mod_cast hpos

/-- The lower end of the rounding range, in quarter units. -/
def lowEnd (x : Double) : Nat :=
  (4 * x.significand - if x.fraction = 0 && decide (1 < x.exponent) then 1 else 2) * 2 ^ x.scale

/-- The upper end. -/
def highEnd (x : Double) : Nat := (4 * x.significand + 2) * 2 ^ x.scale

/-- A power of two in quarter units; where its exponent is negative, that part stands on the other
    side. -/
theorem pow_unit_quarters (x : Double) :
    2 ^ (x.scale - 1076) * quarters = 2 ^ x.scale * 2 ^ (1076 - x.scale) := by
  have hfour : 4 = 2 ^ 2 := rfl
  have hsum : x.scale - 1076 + (2 + 1074) = x.scale + (1076 - x.scale) := by omega
  rw [quarters, unity, hfour, ← Nat.pow_add 2 2 1074,
    ← Nat.pow_add 2 (x.scale - 1076) (2 + 1074), ← Nat.pow_add 2 x.scale (1076 - x.scale), hsum]

theorem low_mul_quarters (x : Double) :
    x.roundingRange.low * quarters = x.lowEnd * x.roundingRange.den := by
  simp only [roundingRange, lowEnd, Nat.pow_eq]
  rw [Nat.mul_assoc, pow_unit_quarters, Nat.mul_assoc]

theorem high_mul_quarters (x : Double) :
    x.roundingRange.high * quarters = x.highEnd * x.roundingRange.den := by
  simp only [roundingRange, highEnd, Nat.pow_eq]
  rw [Nat.mul_assoc, pow_unit_quarters, Nat.mul_assoc]

/-- The rational rounds to the magnitude of the double: it lies in the rounding range, whose
    ends belong to it when the significand is even. -/
structure Rounds (x : Double) (v : ℚ) : Prop where
  low : x.lowEnd ≤ v * quarters
  high : v * quarters ≤ x.highEnd
  inside : x.significand % 2 = 1 → x.lowEnd < v * quarters ∧ v * quarters < x.highEnd

/-- Comparing with an end of a range on a grid is comparing the decimal with it. -/
theorem end_le_decimal_iff {k e den n : Nat} {p : Int} (hden : 0 < den)
    (hend : k * quarters = e * den) :
    ((e : ℚ) ≤ decimal n p * quarters ↔ k * 10 ^ (-p).toNat ≤ n * (den * 10 ^ p.toNat)) ∧
      (decimal n p * quarters ≤ e ↔ n * (den * 10 ^ p.toNat) ≤ k * 10 ^ (-p).toNat) := by
  -- Both sides times the same positive number.
  have hpos : (0 : ℚ) < den * 10 ^ (-p).toNat := by positivity
  have hgrid : decimal n p * quarters * (den * 10 ^ (-p).toNat) =
      (n * (den * 10 ^ p.toNat) : Nat) * quarters := by
    have hdecimal := decimal_mul_pow n p
    push_cast
    linear_combination (quarters : ℚ) * den * hdecimal
  have hscaled : (e : ℚ) * (den * 10 ^ (-p).toNat) = (k * 10 ^ (-p).toNat : Nat) * quarters := by
    have hcast : (k : ℚ) * quarters = e * den := by exact_mod_cast hend
    push_cast
    linear_combination -(10 : ℚ) ^ (-p).toNat * hcast
  constructor
  · rw [← mul_le_mul_iff_left₀ hpos, hgrid, hscaled, mul_le_mul_iff_left₀ quarters_pos, Nat.cast_le]
  · rw [← mul_le_mul_iff_left₀ hpos, hgrid, hscaled, mul_le_mul_iff_left₀ quarters_pos, Nat.cast_le]

/-- **The shortest decimal rounds to the double.** -/
theorem rounds_shortest {x : Double} (hx : x.isFinite = true) (h : x.isZero = false) :
    x.Rounds (decimal x.shortest.1 x.shortest.2) := by
  have hholds := RoundingRange.holds_of_gridPoint? (gridPoint?_shortest hx h)
  have hden : 0 < x.roundingRange.den := Nat.pow_pos (by decide)
  obtain ⟨hlow, hlow'⟩ := end_le_decimal_iff (n := x.shortest.1) (p := x.shortest.2) hden
    (low_mul_quarters x)
  obtain ⟨hhigh', hhigh⟩ := end_le_decimal_iff (n := x.shortest.1) (p := x.shortest.2) hden
    (high_mul_quarters x)
  have hclosed : x.roundingRange.closed = (x.significand % 2 == 0) := rfl
  obtain ⟨hl, hh⟩ := RoundingRange.bounds_of_holds hholds
  refine ⟨hlow.2 hl, hhigh.2 hh, fun hodd => ?_⟩
  have hopen : ¬ x.roundingRange.closed = true := by
    rw [hclosed, beq_iff_eq]
    omega
  rw [RoundingRange.holds, RoundingRange.times] at hholds
  simp only at hholds
  rw [if_neg hopen, Bool.and_eq_true, decide_eq_true_eq, decide_eq_true_eq] at hholds
  exact ⟨(lt_iff_lt_of_le_iff_le hlow').2 hholds.1, (lt_iff_lt_of_le_iff_le hhigh').2 hholds.2⟩

/-- The word without its sign. -/
def unsigned (x : Double) : Nat := x.bits.toNat % 0x8000000000000000

/-- The bits below the sign are exponent and fraction. -/
theorem unsigned_eq (x : Double) : x.unsigned = x.exponent * 0x10000000000000 + x.fraction := by
  rw [unsigned, exponent, fraction]
  omega

/-- A larger magnitude has a larger significand in the same binade, above its first one, or
    lies in a higher binade. -/
theorem binade_cases {x y : Double} (h : x.unsigned < y.unsigned) :
    (x.scale = y.scale ∧ x.significand < y.significand ∧ ¬ (y.fraction = 0 ∧ 1 < y.exponent)) ∨
    (x.scale < y.scale ∧ 1 < y.exponent ∧ y.significand = 2 ^ 52 + y.fraction) := by
  have hfx : x.fraction < 0x10000000000000 := Nat.mod_lt _ (by decide)
  have hfy : y.fraction < 0x10000000000000 := Nat.mod_lt _ (by decide)
  rw [unsigned_eq, unsigned_eq] at h
  unfold scale significand
  split <;> split <;> omega

/-- Above the lowest binade the lower end is at least the first number of the double's binade,
    less a quarter unit. -/
theorem le_lowEnd {y : Double} (hexp : 1 < y.exponent)
    (hsig : y.significand = 2 ^ 52 + y.fraction) : (2 ^ 54 - 1) * 2 ^ y.scale ≤ y.lowEnd := by
  rw [lowEnd]
  refine Nat.mul_le_mul_right _ ?_
  rw [hsig]
  split
  · omega
  · rename_i hgap
    have hne : y.fraction ≠ 0 := by simpa [hexp] using hgap
    omega

/-- **Rounding ranges lie one after the other,** and two that touch do not both own the end at
    which they touch. -/
theorem highEnd_le_lowEnd {x y : Double} (h : x.unsigned < y.unsigned) :
    x.highEnd ≤ y.lowEnd ∧
      (x.significand % 2 = 0 → y.significand % 2 = 0 → x.highEnd < y.lowEnd) := by
  have hpos : 0 < 2 ^ x.scale := Nat.pow_pos (by decide)
  rcases binade_cases h with ⟨hscale, hlt, hgap⟩ | ⟨hscale, hexp, hsig⟩
  · -- In one binade the ends are those of neighbours at the closest.
    have hgap' : ¬ (decide (y.fraction = 0) && decide (1 < y.exponent)) = true := by
      simpa using hgap
    rw [highEnd, lowEnd, if_neg hgap', ← hscale]
    constructor
    · exact Nat.mul_le_mul_right _ (by omega)
    · intro hx hy
      exact Nat.mul_lt_mul_of_pos_right (by omega) hpos
  · -- A binade ends at an odd significand, two quarter units below the next one.
    have hmx := significand_lt x
    have hnext : 2 ^ y.scale = 2 * 2 ^ x.scale * 2 ^ (y.scale - x.scale - 1) := by
      rw [← Nat.pow_succ', ← Nat.pow_add]
      congr 1
      omega
    have hle : (2 ^ 55 - 2) * 2 ^ x.scale ≤ y.lowEnd :=
      calc (2 ^ 55 - 2) * 2 ^ x.scale = (2 ^ 54 - 1) * (2 * 2 ^ x.scale) := by ring
        _ ≤ (2 ^ 54 - 1) * 2 ^ y.scale := by
            rw [hnext]
            exact Nat.mul_le_mul_left _ (Nat.le_mul_of_pos_right _ (Nat.pow_pos (by decide)))
        _ ≤ y.lowEnd := le_lowEnd hexp hsig
    rw [highEnd]
    constructor
    · exact Nat.le_trans (Nat.mul_le_mul_right _ (by omega)) hle
    · intro hx _
      exact Nat.lt_of_lt_of_le (Nat.mul_lt_mul_of_pos_right (by omega) hpos) hle

/-- **No rational rounds to two magnitudes.** -/
theorem Rounds.disjoint {x y : Double} {v : ℚ} (hx : x.Rounds v) (hy : y.Rounds v) :
    x.unsigned = y.unsigned := by
  have hne : ∀ {x y : Double}, x.Rounds v → y.Rounds v → ¬ x.unsigned < y.unsigned := by
    intro x y hx hy hlt
    obtain ⟨hle, heven⟩ := highEnd_le_lowEnd hlt
    have hle' : (x.highEnd : ℚ) ≤ y.lowEnd := by exact_mod_cast hle
    -- One of the two is odd and does not own its end, or there is a gap between them.
    rcases Nat.mod_two_eq_zero_or_one x.significand with hx2 | hx2
    · rcases Nat.mod_two_eq_zero_or_one y.significand with hy2 | hy2
      · have hlt' : (x.highEnd : ℚ) < y.lowEnd := by exact_mod_cast heven hx2 hy2
        linarith [hx.high, hy.low]
      · linarith [hx.high, (hy.inside hy2).1]
    · linarith [(hx.inside hx2).2, hy.low]
  rcases Nat.lt_trichotomy x.unsigned y.unsigned with hlt | heq | hgt
  · exact absurd hlt (hne hx hy)
  · exact heq
  · exact absurd hgt (hne hy hx)

/-! ### The decimal of a numeral -/

/-- The digits as a number, without the power of ten. -/
theorem ofDigitChars_replicate_append (k : Nat) (ds : List Char) :
    Nat.ofDigitChars 10 (List.replicate k '0' ++ ds) 0 = Nat.ofDigitChars 10 ds 0 := by
  induction k with
  | zero => rfl
  | succ k ih => exact ih

/-- Zeros at the end of a numeral multiply it by powers of ten. -/
theorem ofDigitChars_append_replicate (ds : List Char) (k : Nat) :
    Nat.ofDigitChars 10 (ds ++ List.replicate k '0') 0 = Nat.ofDigitChars 10 ds 0 * 10 ^ k := by
  induction k with
  | zero => simp
  | succ k ih =>
    have hzero : '0'.toNat - '0'.toNat = 0 := rfl
    rw [List.replicate_succ', ← List.append_assoc, Nat.ofDigitChars_append, ih,
      Nat.ofDigitChars_cons, hzero, Nat.pow_succ]
    simp only [Nat.ofDigitChars, List.foldl_nil]
    ring

/-- A scientific text has the value of its digits and its point. -/
theorem magnitude_scientificNumeral (negative : Bool) {digits : List Char} (hne : digits ≠ [])
    (point : Int) :
    (scientificNumeral negative digits (point - 1)).magnitude =
      decimal (Nat.ofDigitChars 10 digits 0) (point - digits.length) := by
  have hpos : 0 < digits.length := List.length_pos_iff.2 hne
  have hexponent : point - 1 - ((digits.length - 1 : Nat) : Int) = point - digits.length := by
    omega
  rw [Numeral.magnitude, power_scientificNumeral]
  simp only [scientificNumeral, List.take_append_drop, List.length_drop, hexponent]

theorem power_positionalNumeral (negative : Bool) (digits : List Char) (point : Int) :
    (positionalNumeral negative digits point).power = 0 := by
  rw [Numeral.power, exponent_positionalNumeral]

/-- A positional text has the value of its digits and its point, wherever this stands. -/
theorem magnitude_positionalNumeral (negative : Bool) (digits : List Char) (point : Int) :
    (positionalNumeral negative digits point).magnitude =
      decimal (Nat.ofDigitChars 10 digits 0) (point - digits.length) := by
  rw [Numeral.magnitude, power_positionalNumeral]
  unfold positionalNumeral
  split
  · -- Zeros stand before the digits.
    rename_i hpoint
    have hexponent :
        0 - (((-point).toNat + digits.length : Nat) : Int) = point - digits.length := by
      omega
    have hzeros : ['0'] ++ (List.replicate (-point).toNat '0' ++ digits) =
        List.replicate ((-point).toNat + 1) '0' ++ digits := rfl
    simp only [hzeros, ofDigitChars_replicate_append, List.length_append, List.length_replicate,
      hexponent]
  · rename_i hpoint
    rcases Nat.lt_or_ge point.toNat digits.length with hlt | hge
    · -- The point stands within the digits.
      have hrest : (digits.drop point.toNat).isEmpty = false := by
        rw [List.isEmpty_eq_false_iff, ← List.length_pos_iff, List.length_drop]
        omega
      have hzeros : point.toNat - digits.length = 0 := by omega
      have hexponent : 0 - ((digits.length - point.toNat : Nat) : Int) = point - digits.length := by
        omega
      simp only [hrest, hzeros, List.replicate_zero, List.append_nil, Bool.false_eq_true, if_false,
        List.take_append_drop, List.length_drop, hexponent]
    · -- Zeros stand after the digits, and one more after the point.
      have hrest : digits.drop point.toNat = [] := List.drop_of_length_le hge
      have htake : digits.take point.toNat = digits := List.take_of_length_le hge
      have hzeros : digits ++ List.replicate (point.toNat - digits.length) '0' ++ ['0'] =
          digits ++ List.replicate (point.toNat - digits.length + 1) '0' := by
        rw [List.append_assoc, List.replicate_succ']
      have hexponent : 0 - (([ '0' ] : List Char).length : Int) +
          (point.toNat - digits.length + 1 : Nat) = point - digits.length := by
        rw [List.length_singleton]
        omega
      simp only [hrest, htake, List.isEmpty_nil, if_true, hzeros, ofDigitChars_append_replicate,
        decimal_mul_powTen, hexponent]

/-- A double other than zero stands for its shortest decimal. -/
theorem magnitude_numeral {x : Double} (h : x.isZero = false) :
    x.numeral.magnitude = decimal x.shortest.1 x.shortest.2 := by
  have hexponent : ∀ k : Int, x.shortest.2 + k - k = x.shortest.2 := by
    intro k
    omega
  rw [numeral, if_neg (by simp [h])]
  simp only
  split
  · rw [magnitude_positionalNumeral, Nat.ofDigitChars_ten_toDigits, hexponent]
  · rw [magnitude_scientificNumeral _ Nat.toDigits_ne_nil, Nat.ofDigitChars_ten_toDigits,
      hexponent]

/-- The minus of a text is the sign of the double. -/
theorem negative_numeral (x : Double) : x.numeral.negative = x.negative := by
  unfold numeral
  split
  · rfl
  · simp only
    split
    · unfold positionalNumeral
      split <;> rfl
    · rfl

/-- The magnitude of the numeral is zero for the zeros only. -/
theorem magnitude_numeral_eq_zero_iff {x : Double} (hx : x.isFinite = true) :
    x.numeral.magnitude = 0 ↔ x.isZero = true := by
  cases h : x.isZero with
  | true =>
    have hzero : Nat.ofDigitChars 10 ['0', '0'] 0 = 0 := rfl
    rw [numeral, if_pos h]
    simp [Numeral.magnitude, decimal, hzero]
  | false =>
    have hne := shortest_ne_zero h (gridPoint?_shortest hx h)
    have hten : (10 : ℚ) ^ x.shortest.2 ≠ 0 := zpow_ne_zero _ (by norm_num)
    simp [magnitude_numeral h, decimal, hne, hten]

/-- **The numeral of a finite double determines it.** -/
theorem numeral_inj {x y : Double} (hx : x.isFinite = true) (hy : y.isFinite = true)
    (h : x.numeral = y.numeral) : x = y := by
  have hunsigned : x.unsigned = y.unsigned := by
    have hzero : x.isZero = true ↔ y.isZero = true := by
      rw [← magnitude_numeral_eq_zero_iff hx, h, magnitude_numeral_eq_zero_iff hy]
    cases hx0 : x.isZero with
    | true =>
      have hy0 := hzero.1 hx0
      rw [isZero, beq_iff_eq] at hx0 hy0
      rw [unsigned, unsigned, hx0, hy0]
    | false =>
      have hy0 : y.isZero = false := by
        rw [Bool.eq_false_iff, ne_eq, ← hzero, hx0]
        decide
      have hrounds := rounds_shortest hx hx0
      rw [← magnitude_numeral hx0, h, magnitude_numeral hy0] at hrounds
      exact hrounds.disjoint (rounds_shortest hy hy0)
  have hsign : x.negative = y.negative := by
    rw [← negative_numeral, h, negative_numeral]
  rw [← ofFields_eq x, ← ofFields_eq y, hsign]
  exact congrArg (ofFields y.negative) hunsigned

end Double

end Telemetry
