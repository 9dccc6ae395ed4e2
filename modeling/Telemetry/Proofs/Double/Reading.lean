import Telemetry.Proofs.Double.Numeral
import Telemetry.Proofs.Json.Reading
import Telemetry.Proofs.Json.Scaling

namespace Telemetry.Double

/-!
# Doubles read back

The text of every finite double is accepted by the reader of documents.  The reader rounds
twice, so it need not give the double back, but it never runs out of range.

* `shortest_secure` — the shortest decimal keeps away from the overflow, except at the
  three largest doubles of each sign.
* `exists_double?_numeral` — the numeral of a finite double has a finite double.
* `readBack`, `reads_chars` — the document that is read from the text of a double.
-/

open Json (Numeral Number Document Reads)
open Json.Numeral (secure)

/-! ### The largest doubles -/

/-- A double is made of its sign and its other bits. -/
theorem ofFields_eq (x : Double) : ofFields x.negative (x.bits.toNat % 0x8000000000000000) = x := by
  have hlt := x.bits.toNat_lt
  have hword : (if x.negative then 0x8000000000000000 else 0) +
      x.bits.toNat % 0x8000000000000000 = x.bits.toNat := by
    by_cases hneg : 0x8000000000000000 ≤ x.bits.toNat
    · have hnegative : x.negative = true := decide_eq_true hneg
      rw [hnegative, if_pos rfl]
      omega
    · have hnegative : x.negative = false := decide_eq_false hneg
      rw [hnegative, if_neg (by decide)]
      omega
  rw [ofFields, hword, UInt64.ofNat_toNat]

/-- The three largest doubles of each sign, one by one. -/
theorem isFinite_double?_largest : ∀ (negative : Bool) (k : Fin 3),
    (ofFields negative (0x7fefffffffffffff - k)).numeral.double?.map isFinite = some true := by
  decide +kernel

/-- The largest exponent is left to NaN and the infinities. -/
theorem exponent_le {x : Double} (hx : x.isFinite = true) : x.exponent ≤ 2046 := by
  have hne : x.exponent ≠ 2047 := by simpa [isFinite] using hx
  have hlt : x.exponent < 0x800 := Nat.mod_lt _ (by decide)
  omega

/-- A significand has 53 bits at most. -/
theorem significand_lt (x : Double) : x.significand < 2 ^ 53 := by
  have hfraction : x.fraction < 0x10000000000000 := Nat.mod_lt _ (by decide)
  unfold significand
  split <;> omega

/-- A finite double is one of the three largest of its sign, or its rounding range ends below
    what is secure. -/
theorem largest_or_high_le {x : Double} (hx : x.isFinite = true) :
    (∃ k : Fin 3, x = ofFields x.negative (0x7fefffffffffffff - k)) ∨
      x.roundingRange.high ≤ secure := by
  have hexp := exponent_le hx
  have hsig := significand_lt x
  simp only [roundingRange, Nat.pow_eq]
  -- Only in the last binade does the count decide.
  rcases Nat.lt_or_ge x.scale 2045 with hscale | hscale
  · right
    exact Numeral.mul_pow_le_secure (by omega) (by omega)
  · rcases Nat.lt_or_ge x.significand (2 ^ 53 - 3) with hsmall | hlarge
    · right
      rw [secure]
      exact Numeral.mul_pow_le_mul_pow (by omega) (by rw [scale]; omega)
    · left
      rw [scale] at hscale
      have hfraction : x.significand = 0x10000000000000 + x.fraction := by
        rw [significand, if_neg (by omega)]
      have hrest : x.bits.toNat % 0x8000000000000000 =
          0x7fefffffffffffff - (0xfffffffffffff - x.fraction) := by
        have hword : x.exponent = x.bits.toNat / 0x10000000000000 % 0x800 := rfl
        have hlow : x.fraction = x.bits.toNat % 0x10000000000000 := rfl
        omega
      refine ⟨⟨0xfffffffffffff - x.fraction, by omega⟩, ?_⟩
      rw [← hrest, ofFields_eq]

/-! ### The shortest decimal in range -/

/-- What can be kept of the digits of the shortest decimal is in its range. -/
theorem shortest_secure {x : Double} (hhigh : x.roundingRange.high ≤ secure)
    {kept unused k : Nat} (hkept : kept * 10 ^ unused ≤ x.shortest.1)
    (hk : x.shortest.2 + unused = k) : kept * 10 ^ k ≤ secure := by
  rcases shortest_cases x with hnone | hsome
  · rw [hnone] at hkept
    have hzero : kept = 0 := by
      have hmul := Nat.mul_eq_zero.1 (Nat.le_zero.1 hkept)
      rcases hmul with hzero | hpow
      · exact hzero
      · exact absurd hpow (Nat.pos_iff_ne_zero.1 (Nat.pow_pos (by decide)))
    rw [hzero, Nat.zero_mul]
    exact Nat.zero_le _
  · have hbounds := (RoundingRange.gridPoint?_bounds hsome).2
    have hden : 0 < x.roundingRange.den := by
      simp only [roundingRange, Nat.pow_eq]
      exact Nat.pow_pos (by decide)
    generalize x.shortest = decimal at *
    obtain ⟨n, p⟩ := decimal
    simp only at *
    -- One of the two powers of ten is 1, according to the sign of `p`.
    have hsum : k + (-p).toNat = unused + p.toNat := by omega
    refine Nat.le_of_mul_le_mul_right ?_ (Nat.pow_pos (by decide) : 0 < 10 ^ (-p).toNat)
    calc kept * 10 ^ k * 10 ^ (-p).toNat = kept * 10 ^ unused * 10 ^ p.toNat := by
          rw [Nat.mul_assoc, ← Nat.pow_add, hsum, Nat.pow_add, Nat.mul_assoc]
      _ ≤ n * 10 ^ p.toNat := Nat.mul_le_mul_right _ hkept
      _ ≤ n * (x.roundingRange.den * 10 ^ p.toNat) :=
          Nat.mul_le_mul_left _ (Nat.le_mul_of_pos_left _ hden)
      _ ≤ x.roundingRange.high * 10 ^ (-p).toNat := hbounds
      _ ≤ secure * 10 ^ (-p).toNat := Nat.mul_le_mul_right _ hhigh

/-! ### The numeral in range -/

/-- A numeral without exponent has a finite double. -/
theorem exists_double?_of_exponent_eq_none {n : Numeral}
    (hdigits : ∀ c ∈ n.whole, c.isDigit = true) (hlength : n.whole.length ≤ 19)
    (hexponent : n.exponent = none) : ∃ x, n.double? = some x ∧ x.isFinite = true := by
  refine Numeral.exists_double? hdigits hlength ?_
  intro kept unused k hlt hunused _ hk
  have hpower : n.power = 0 := by rw [Numeral.power, hexponent]
  have hzero : k = 0 := by omega
  rw [hzero, Nat.pow_zero, Nat.mul_one]
  calc kept ≤ 2 ^ 55 * 2 ^ 55 := by omega
    _ ≤ secure := Numeral.mul_pow_le_secure (by decide) (by decide)

/-- Positional texts have sixteen digits at most before the point. -/
theorem length_whole_positionalNumeral (negative : Bool) (digits : List Char) {point : Int}
    (hpoint : point ≤ 16) : (positionalNumeral negative digits point).whole.length ≤ 16 := by
  unfold positionalNumeral
  split
  · simp
  · simp only [List.length_append, List.length_take, List.length_replicate]
    omega

theorem exponent_positionalNumeral (negative : Bool) (digits : List Char) (point : Int) :
    (positionalNumeral negative digits point).exponent = none := by
  unfold positionalNumeral
  split <;> rfl

/-- The exponent of a scientific text is the power it was written with. -/
theorem power_scientificNumeral (negative : Bool) (digits : List Char) (power : Int) :
    (scientificNumeral negative digits power).power = power := by
  unfold scientificNumeral Numeral.power
  by_cases hpower : power < 0
  · simp only [hpower, decide_true, Nat.ofDigitChars_ten_toDigits]
    omega
  · simp only [hpower, decide_false, Nat.ofDigitChars_ten_toDigits]
    omega

/-- **The numeral of a finite double has a finite double.** -/
theorem exists_double?_numeral {x : Double} (hx : x.isFinite = true) :
    ∃ y, x.numeral.double? = some y ∧ y.isFinite = true := by
  rcases largest_or_high_le hx with ⟨k, hk⟩ | hhigh
  · have hlargest := isFinite_double?_largest x.negative k
    rw [← hk, Option.map_eq_some_iff] at hlargest
    exact hlargest
  · -- Zero, the positional form and the scientific one, as the writer chooses between them.
    have hwhole := (wellFormed_numeral x).whole_digits
    unfold numeral at hwhole ⊢
    by_cases hzero : x.isZero = true
    · rw [if_pos hzero] at hwhole ⊢
      exact exists_double?_of_exponent_eq_none hwhole (by simp) rfl
    · rw [if_neg hzero] at hwhole ⊢
      simp only at hwhole ⊢
      split at hwhole
      · rename_i hband
        rw [if_pos hband]
        have hpoint : x.shortest.2 + (Nat.toDigits 10 x.shortest.1).length ≤ 16 := by
          rw [Bool.and_eq_true] at hband
          have hle := of_decide_eq_true hband.2
          have hfifteen : positionalBand.highest = 15 := rfl
          omega
        refine exists_double?_of_exponent_eq_none hwhole ?_ (exponent_positionalNumeral ..)
        exact Nat.le_trans (length_whole_positionalNumeral _ _ hpoint) (by decide)
      · rename_i hband
        rw [if_neg hband]
        refine Numeral.exists_double? hwhole ?_ ?_
        · simp only [scientificNumeral, List.length_take]
          omega
        · intro kept unused k _ _ hkept hk
          have hpos := List.length_pos_iff.2 (Nat.toDigits_ne_nil (n := x.shortest.1) (b := 10))
          rw [power_scientificNumeral] at hk
          simp only [scientificNumeral, List.take_append_drop, List.length_drop,
            Nat.ofDigitChars_ten_toDigits] at hkept hk
          exact shortest_secure hhigh hkept (by omega)

/-- The numeral of a finite double has a number, which is a double again. -/
theorem exists_value?_numeral {x : Double} (hx : x.isFinite = true) :
    ∃ y hy, x.numeral.value? = some (.float y hy) := by
  obtain ⟨y, hy, hfinite⟩ := exists_double?_numeral hx
  exact ⟨y, hfinite, Numeral.value?_of_double? (integer?_numeral x) hy hfinite⟩

/-! ### Reading back -/

/-- The document that is read from the text of a double: the number of its numeral, or null
    for a NaN or an infinity. -/
def readBack (x : Double) : Document :=
  if x.isFinite then (x.numeral.value?.map .number).getD .null else .null

/-- **The text of every double is accepted:** a finite one is read as a number, and any other
    one as null. -/
theorem reads_chars (depth : Nat) (x : Double) : Reads depth x.chars x.readBack := by
  unfold chars readBack
  by_cases hx : x.isFinite = true
  · obtain ⟨y, hy, hn⟩ := exists_value?_numeral hx
    rw [if_pos hx, if_pos hx, finiteChars_eq, hn]
    exact Json.reads_numeral depth (wellFormed_numeral x) hn
  · rw [if_neg hx, if_neg hx]
    exact Json.reads_null depth

end Telemetry.Double
