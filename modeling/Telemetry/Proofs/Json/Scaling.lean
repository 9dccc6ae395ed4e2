import Telemetry.Json.Number
import Telemetry.Proofs.Double.Rounding

namespace Telemetry.Json.Numeral

/-!
# Numerals in range

The double of a numeral is scaled by one power of ten, with a rounding at each step.  It is
finite unless the numeral comes close to the largest double.

* `accumulate_bounds` — the kept digits are not more than the digits.
* `isFinite_scaleDown` — dividing by powers of ten stays finite.
* `exists_scaled?` — so does multiplying, below `secure`.
* `exists_double?` — a numeral with few leading digits has a finite double if the digits
  that can be kept are secure.
-/

open Double (units unity overflow)

/-! ### Digits -/

/-- The digits that do not fit are left over, and what is kept is not more than all. -/
theorem accumulate_bounds (significand : Nat) (ds : List Char) :
    (accumulate significand ds).2.length ≤ ds.length ∧
      (accumulate significand ds).1 * 10 ^ (accumulate significand ds).2.length ≤
        Nat.ofDigitChars 10 ds significand := by
  -- The fold over all digits goes on where keeping them stops, and only adds to what is kept.
  induction ds generalizing significand with
  | nil => simp [accumulate]
  | cons d ds ih =>
    simp only [accumulate]
    split
    · obtain ⟨hlength, hvalue⟩ := ih (10 * significand + (d.toNat - 48))
      rw [Nat.ofDigitChars_cons, List.length_cons]
      exact ⟨by omega, hvalue⟩
    · refine ⟨Nat.le_refl _, ?_⟩
      rw [Nat.ofDigitChars_eq_ofDigitChars_zero, Nat.mul_comm]
      exact Nat.le_add_right _ _

/-- The significand never exceeds an unsigned word. -/
theorem accumulate_lt {significand : Nat} (h : significand < 0x10000000000000000)
    (ds : List Char) : (accumulate significand ds).1 < 0x10000000000000000 := by
  induction ds generalizing significand with
  | nil => exact h
  | cons d ds ih =>
    simp only [accumulate]
    split
    · rename_i hnext
      exact ih hnext
    · exact h

/-- Nineteen digits always fit. -/
theorem accumulate_eq {significand k : Nat} {ds : List Char} (hsig : significand < 10 ^ k)
    (hds : ∀ c ∈ ds, c.isDigit = true) (hlength : k + ds.length ≤ 19) :
    accumulate significand ds = (Nat.ofDigitChars 10 ds significand, []) := by
  induction ds generalizing significand k with
  | nil => rfl
  | cons d ds ih =>
    have hd : d.toNat - 48 ≤ 9 := by
      have hrange := (Char.isDigit_iff_toNat.1 (hds d (by simp))).2
      have hnine : '9'.toNat = 57 := rfl
      omega
    rw [List.length_cons] at hlength
    have hnext : 10 * significand + (d.toNat - 48) < 10 ^ (k + 1) := by
      rw [Nat.pow_succ]
      omega
    have hfits : 10 * significand + (d.toNat - 48) < 0x10000000000000000 :=
      calc 10 * significand + (d.toNat - 48) < 10 ^ (k + 1) := hnext
        _ ≤ 10 ^ 19 := Nat.pow_le_pow_right (by decide) (by omega)
        _ < 0x10000000000000000 := by decide
    simp only [accumulate]
    rw [if_pos hfits, Nat.ofDigitChars_cons]
    exact ih hnext (fun c hc => hds c (List.mem_cons_of_mem d hc)) (by omega)

/-! ### Powers of ten -/

/-- Words are far below the overflow. -/
theorem lt_overflow_of_word {significand : Nat} (hsig : significand < 0x10000000000000000) :
    significand < overflow :=
  calc significand < 0x10000000000000000 := hsig
    _ ≤ 2 ^ 128 := by decide
    _ < overflow := Double.pow_lt_overflow

/-- The double of a power of ten is at least half of it. -/
theorem le_units_powTen {k : Nat} (hk : k ≤ 308) :
    10 ^ k * unity ≤ 2 * (Double.powTen k).units := by
  have hbounds :=
    (Double.units_ofNat_bounds (Nat.pow_pos (by decide)) (Double.powTen_lt_overflow hk)).2
  rw [Double.powTen, Nat.pow_eq]
  omega

/-- A power of ten is at least one half after rounding. -/
theorem unity_le_units_powTen {k : Nat} (hk : k ≤ 308) : unity ≤ 2 * (Double.powTen k).units :=
  calc unity = 1 * unity := (Nat.one_mul _).symm
    _ ≤ 10 ^ k * unity := Nat.mul_le_mul_right _ (Nat.pow_pos (by decide))
    _ ≤ 2 * (Double.powTen k).units := le_units_powTen hk

/-! ### Scaling down -/

/-- Dividing by a power of ten is finite. -/
theorem isFinite_div_powTen {x : Double} {k : Nat} (hk : k ≤ 308)
    (hx : x.units ≤ 2 ^ 68 * unity) :
    (x.div (Double.powTen k)).isFinite = true ∧
      (x.div (Double.powTen k)).units * (Double.powTen k).units ≤
        2 * (x.units * unity) + (Double.powTen k).units := by
  have hunity := unity_le_units_powTen hk
  have hpos := Double.unity_pos
  refine Double.isFinite_div (by omega) ?_
  calc x.units ≤ 2 ^ 68 * unity := hx
    _ ≤ 2 ^ 68 * (2 * (Double.powTen k).units) := Nat.mul_le_mul_left _ hunity
    _ = 2 ^ 69 * (Double.powTen k).units := by ring
    _ < overflow * (Double.powTen k).units := by
        have hsmall : 2 ^ 69 < overflow := Nat.lt_trans (by decide) Double.pow_lt_overflow
        exact Nat.mul_lt_mul_of_pos_right hsmall (by omega)

/-- Dividing by a power of ten, at least by ten, does not leave the range from which one may
    divide again. -/
theorem units_div_powTen_le {x : Double} {k : Nat} (hten : 0 < k) (hk : k ≤ 308)
    (hx : x.units ≤ 2 ^ 68 * unity) : (x.div (Double.powTen k)).units ≤ 2 ^ 68 * unity := by
  have hpos := Double.unity_pos
  have height : 8 * unity ≤ 2 * (Double.powTen k).units :=
    calc 8 * unity ≤ 10 ^ 1 * unity := Nat.mul_le_mul_right _ (by decide)
      _ ≤ 10 ^ k * unity := Nat.mul_le_mul_right _ (Nat.pow_le_pow_right (by decide) hten)
      _ ≤ 2 * (Double.powTen k).units := le_units_powTen hk
  have hdiv := (isFinite_div_powTen hk hx).2
  -- Only the bounds of the power matter from here, and it must not be evaluated.
  generalize Double.powTen k = y at *
  have hmul : (x.div y).units * y.units ≤ (2 ^ 67 * unity + 1) * y.units :=
    calc (x.div y).units * y.units ≤ 2 * (x.units * unity) + y.units := hdiv
      _ ≤ 2 * (2 ^ 68 * unity * unity) + y.units := by
          have := Nat.mul_le_mul_right unity hx
          omega
      _ = 2 ^ 66 * unity * (8 * unity) + y.units := by ring
      _ ≤ 2 ^ 66 * unity * (2 * y.units) + y.units := by
          have := Nat.mul_le_mul_left (2 ^ 66 * unity) height
          omega
      _ = (2 ^ 67 * unity + 1) * y.units := by ring
  have hle := Nat.le_of_mul_le_mul_right hmul (by omega)
  omega

/-- **Scaling down stays finite,** however large the power. -/
theorem isFinite_scaleDown {x : Double} (hfinite : x.isFinite = true)
    (hx : x.units ≤ 2 ^ 68 * unity) (power : Nat) : (scaleDown x power).isFinite = true := by
  -- The reader takes off 308 powers at a time, and each quotient is within the bound again.
  induction power using Nat.strongRecOn generalizing x with
  | _ power ih =>
    rw [scaleDown]
    split
    · rename_i hk
      exact (isFinite_div_powTen hk hx).1
    · split
      · exact hfinite
      · exact ih (power - 308) (by omega) (isFinite_div_powTen (Nat.le_refl _) hx).1
          (units_div_powTen_le (by decide) (Nat.le_refl _) hx)

/-! ### Scaling up -/

/-- Two roundings up from here do not reach the overflow. -/
def secure : Nat := (2 ^ 55 - 14) * 2 ^ 969

/-- How this bound compares with powers of two and ten; nothing else is needed of its value. -/
theorem secure_bounds :
    2 ^ 55 * 2 ^ 968 ≤ secure ∧ (2 ^ 53 + 1) ^ 2 * secure < 2 ^ 106 * overflow ∧
      secure < 10 ^ 309 := by
  decide +kernel

/-- A product with a power of two grows with both factors. -/
theorem mul_pow_le_mul_pow {m n e f : Nat} (hm : m ≤ n) (he : e ≤ f) : m * 2 ^ e ≤ n * 2 ^ f :=
  Nat.mul_le_mul hm (Nat.pow_le_pow_right (by decide) he)

/-- A significand of 55 bits and a power up to 968 stay below this bound. -/
theorem mul_pow_le_secure {m e : Nat} (hm : m ≤ 2 ^ 55) (he : e ≤ 968) : m * 2 ^ e ≤ secure :=
  Nat.le_trans (mul_pow_le_mul_pow hm he) secure_bounds.1

/-- Two relative errors of 2^-53 do not lead from `secure` to the overflow. -/
theorem secure_mul_lt : (2 ^ 53 + 1) ^ 2 * secure < 2 ^ 106 * overflow := secure_bounds.2.1

/-- Powers of ten from 309 on exceed this bound. -/
theorem secure_lt {k : Nat} (hk : 309 ≤ k) : secure < 10 ^ k :=
  calc secure < 10 ^ 309 := secure_bounds.2.2
    _ ≤ 10 ^ k := pow_le_pow_right₀ (by decide) hk

/-- Multiplying by a power of ten is finite below `secure`. -/
theorem exists_scaleUp? {significand k : Nat} (hpos : 0 < significand)
    (hsig : significand < 0x10000000000000000) (hsecure : significand * 10 ^ k ≤ secure) :
    ∃ x, scaleUp? (Double.ofNat significand) k = some x ∧ x.isFinite = true := by
  have hk : k ≤ 308 := by
    by_contra hk
    have hlt := secure_lt (Nat.not_le.1 hk)
    have hle : 1 * 10 ^ k ≤ significand * 10 ^ k := Nat.mul_le_mul_right _ hpos
    omega
  have hx := (Double.units_ofNat_bounds hpos (lt_overflow_of_word hsig)).1
  have hy := (Double.units_ofNat_bounds (Nat.pow_pos (by decide)) (Double.powTen_lt_overflow hk)).1
  have hfinite : ((Double.ofNat significand).mul (Double.powTen k)).isFinite = true := by
    rw [Double.powTen, Nat.pow_eq]
    -- Both factors are rounded already, each with an error of 2^-53.
    refine Double.isFinite_mul (Nat.lt_of_mul_lt_mul_left (a := 2 ^ 106) ?_)
    generalize Double.ofNat significand = x at *
    generalize Double.ofNat (10 ^ k) = y at *
    calc 2 ^ 106 * (x.units * y.units) = 2 ^ 53 * x.units * (2 ^ 53 * y.units) := by ring
      _ ≤ (2 ^ 53 + 1) * (significand * unity) * ((2 ^ 53 + 1) * (10 ^ k * unity)) :=
          Nat.mul_le_mul hx hy
      _ = (2 ^ 53 + 1) ^ 2 * (significand * 10 ^ k) * (unity * unity) := by ring
      _ ≤ (2 ^ 53 + 1) ^ 2 * secure * (unity * unity) :=
          Nat.mul_le_mul_right _ (Nat.mul_le_mul_left _ hsecure)
      _ < 2 ^ 106 * overflow * (unity * unity) :=
          Nat.mul_lt_mul_of_pos_right secure_mul_lt (Nat.mul_pos Double.unity_pos Double.unity_pos)
      _ = 2 ^ 106 * (overflow * unity * unity) := by ring
  refine ⟨_, ?_, hfinite⟩
  rw [scaleUp?, if_pos hk]
  simp only [hfinite, if_true]

/-- Zero stays zero. -/
theorem exists_scaleUp?_zero (k : Nat) :
    ∃ x, scaleUp? (Double.ofNat 0) k = some x ∧ x.isFinite = true := by
  have hmul : ((Double.ofNat 0).mul (Double.powTen k)).isFinite = true := by
    refine Double.isFinite_mul ?_
    have hzero : (Double.ofNat 0).units = 0 := by decide
    rw [hzero, Nat.zero_mul]
    have hoverflow : 0 < overflow := Nat.lt_trans (by decide) Double.pow_lt_overflow
    exact Nat.mul_pos (Nat.mul_pos hoverflow Double.unity_pos) Double.unity_pos
  unfold scaleUp?
  split
  · exact ⟨_, by simp only [hmul, if_true], hmul⟩
  · exact ⟨_, if_pos rfl, rfl⟩

/-- A word rounds to 2^68 at most, in units. -/
theorem units_ofNat_le {significand : Nat} (hsig : significand < 0x10000000000000000) :
    (Double.ofNat significand).units ≤ 2 ^ 68 * unity := by
  have hoverflow : significand < overflow * 1 := by
    rw [Nat.mul_one]
    exact lt_overflow_of_word hsig
  have hle := Double.units_ofRatio_le false Nat.one_pos hoverflow
  have hmul := Nat.mul_le_mul_right unity hsig.le
  have hpos := Double.unity_pos
  rw [Double.ofNat]
  omega

/-- **Scaling is finite** below `secure`. -/
theorem exists_scaled? {significand : Nat} {power : Int}
    (hsig : significand < 0x10000000000000000)
    (hsecure : ∀ k : Nat, power = k → significand * 10 ^ k ≤ secure) :
    ∃ x, scaled? significand power = some x ∧ x.isFinite = true := by
  simp only [scaled?]
  by_cases hpower : 0 ≤ power
  · rw [if_pos hpower]
    rcases Nat.eq_zero_or_pos significand with rfl | hpos
    · exact exists_scaleUp?_zero _
    · exact exists_scaleUp? hpos hsig (hsecure _ (by omega))
  · rw [if_neg hpower]
    have hfinite := Double.isFinite_ofNat (lt_overflow_of_word hsig)
    exact ⟨_, rfl, isFinite_scaleDown hfinite (units_ofNat_le hsig) _⟩

/-! ### Numerals -/

/-- The sign does not decide if a double is finite. -/
theorem isFinite_neg (x : Double) : x.neg.isFinite = x.isFinite := by
  have hlt : x.bits.toNat % 0x8000000000000000 < 0x8000000000000000 := Nat.mod_lt _ (by decide)
  have hexp : x.neg.exponent = x.exponent := by
    rw [Double.neg, Double.exponent_ofFields hlt, Double.exponent]
    omega
  rw [Double.isFinite, hexp, Double.isFinite]

/-- **A numeral has a finite double** if its leading digits fit a word and what can be kept
    of all its digits is secure. -/
theorem exists_double? {n : Numeral} (hdigits : ∀ c ∈ n.whole, c.isDigit = true)
    (hlength : n.whole.length ≤ 19)
    (hsecure : ∀ kept unused k : Nat, kept < 0x10000000000000000 →
      unused ≤ n.fraction.length →
      kept * 10 ^ unused ≤ Nat.ofDigitChars 10 (n.whole ++ n.fraction) 0 →
      n.power - n.fraction.length + unused = k → kept * 10 ^ k ≤ secure) :
    ∃ x, n.double? = some x ∧ x.isFinite = true := by
  -- The leading digits are all kept, so whatever is left over is at the end of the fraction.
  have hwhole : accumulate 0 n.whole = (Nat.ofDigitChars 10 n.whole 0, []) :=
    accumulate_eq (k := 0) (by decide) hdigits (by omega)
  have hzero : 0 < 0x10000000000000000 := by decide
  have hkept := accumulate_lt hzero n.whole
  rw [hwhole] at hkept
  have hbounds := accumulate_bounds (Nat.ofDigitChars 10 n.whole 0) n.fraction
  have hlt := accumulate_lt hkept n.fraction
  rw [← Nat.ofDigitChars_append] at hbounds
  simp only [double?, hwhole]
  generalize accumulate (Nat.ofDigitChars 10 n.whole 0) n.fraction = r at *
  obtain ⟨kept, unused⟩ := r
  have hscaled : ∀ k : Nat, n.power + (List.length ([] : List Char) : Nat) -
      (n.fraction.length - unused.length : Nat) = k → kept * 10 ^ k ≤ secure := by
    intro k hk
    have hle := hbounds.1
    refine hsecure kept unused.length k hlt hle hbounds.2 ?_
    simp only [List.length_nil] at hk hle
    omega
  obtain ⟨x, hx, hfinite⟩ := exists_scaled? hlt hscaled
  rw [hx]
  refine ⟨if n.negative then x.neg else x, rfl, ?_⟩
  split
  · rw [isFinite_neg, hfinite]
  · exact hfinite

/-- The number of a numeral that is written as no integer. -/
theorem value?_of_double? {n : Numeral} {x : Double} (hint : n.integer? = none)
    (hx : n.double? = some x) (hfinite : x.isFinite = true) :
    n.value? = some (.float x hfinite) := by
  simp only [value?, hint, hx, Option.bind_some]
  rw [Number.ofDouble?, dif_pos hfinite]

end Telemetry.Json.Numeral
