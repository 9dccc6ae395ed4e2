import Mathlib.Algebra.Order.Ring.Nat
import Telemetry.Proofs.Json.Numeral

namespace Telemetry.Double

/-!
# Doubles as numerals

The text of a finite double is a numeral of the JSON grammar, whatever its shortest decimal.

* `RoundingRange.gridPoint?_bounds` — a grid point lies in the range that it was sought in.
* `shortest_cases` — the shortest decimal is such a point, unless the search found none.
* `numeral`, `finiteChars_eq` — the numeral of a double, and its text.
* `wellFormed_numeral`, `fraction_or_exponent` — it is well formed, and it has a fraction or an
  exponent.
-/

open Json (Numeral)

/-! ### The shortest decimal -/

namespace RoundingRange

/-- What lies in a range lies between its ends, whether or not these belong to it. -/
theorem bounds_of_holds {r : RoundingRange} {k : Nat} (h : r.holds k = true) :
    r.low ≤ k ∧ k ≤ r.high := by
  unfold holds at h
  split at h
  · simpa using h
  · simp only [Bool.and_eq_true, decide_eq_true_eq] at h
    omega

theorem holds_of_gridPoint? {r : RoundingRange} {p : Int} {n : Nat}
    (h : r.gridPoint? p = some n) :
    (r.times (10 ^ (-p).toNat)).holds (n * (r.den * 10 ^ p.toNat)) = true := by
  simp only [gridPoint?, Nat.pow_eq] at h
  -- Neither neighbour of the middle is in the range, or one of them is, or both are and the
  -- nearer one is taken.
  split at h
  · simp at h
  · rename_i hbelow _
    rw [Option.some.injEq] at h
    rw [← h]
    exact hbelow
  · rename_i habove
    rw [Option.some.injEq] at h
    rw [← h]
    exact habove
  · rename_i hbelow habove
    have hn : n = (r.times (10 ^ (-p).toNat)).mid / (r.den * 10 ^ p.toNat) ∨
        n = (r.times (10 ^ (-p).toNat)).mid / (r.den * 10 ^ p.toNat) + 1 := by
      split at h
      · exact .inl (Option.some.inj h).symm
      · split at h
        · exact .inr (Option.some.inj h).symm
        · split at h
          · exact .inl (Option.some.inj h).symm
          · exact .inr (Option.some.inj h).symm
    rcases hn with rfl | rfl
    · exact hbelow
    · exact habove

/-- **A grid point lies in the range.** -/
theorem gridPoint?_bounds {r : RoundingRange} {p : Int} {n : Nat}
    (h : r.gridPoint? p = some n) :
    r.low * 10 ^ (-p).toNat ≤ n * (r.den * 10 ^ p.toNat) ∧
      n * (r.den * 10 ^ p.toNat) ≤ r.high * 10 ^ (-p).toNat :=
  bounds_of_holds (holds_of_gridPoint? h)

/-- The first grid point of all grids is one of its own grid. -/
theorem gridPoint?_of_firstPoint? {r : RoundingRange} {p q : Int} {grids n : Nat}
    (h : r.firstPoint? p grids = some (n, q)) : r.gridPoint? q = some n := by
  induction grids generalizing p with
  | zero => simp [firstPoint?] at h
  | succ grids ih =>
    rw [firstPoint?] at h
    split at h
    · rename_i m hm
      rw [Option.some.injEq, Prod.mk.injEq] at h
      rw [← h.1, ← h.2]
      exact hm
    · exact ih h

end RoundingRange

/-- The shortest decimal is a point of its grid, unless no grid has one. -/
theorem shortest_cases (x : Double) :
    x.shortest = (0, 0) ∨ x.roundingRange.gridPoint? x.shortest.2 = some x.shortest.1 := by
  rw [shortest]
  rcases hfirst : x.roundingRange.firstPoint? x.roundingRange.leadingPower 20 with _ | ⟨n, p⟩
  · exact .inl rfl
  · exact .inr (RoundingRange.gridPoint?_of_firstPoint? hfirst)

/-- The significand is zero for the zeros only. -/
theorem significand_pos {x : Double} (h : x.isZero = false) : 0 < x.significand := by
  have hbits : x.bits.toNat % 0x8000000000000000 ≠ 0 := by simpa [isZero] using h
  unfold significand
  split
  · rename_i hexp
    rw [exponent] at hexp
    rw [fraction]
    omega
  · omega

/-- What rounds to a double that is no zero lies above zero. -/
theorem roundingRange_low_pos {x : Double} (h : x.isZero = false) : 0 < x.roundingRange.low := by
  have hm := significand_pos h
  have hunit : 0 < 2 ^ (x.scale - 1076) := Nat.pow_pos (by decide)
  simp only [roundingRange, Nat.pow_eq]
  refine Nat.mul_pos ?_ hunit
  split <;> omega

/-- A shortest decimal that was found is not zero. -/
theorem shortest_ne_zero {x : Double} (h : x.isZero = false)
    (hpoint : x.roundingRange.gridPoint? x.shortest.2 = some x.shortest.1) :
    x.shortest.1 ≠ 0 := by
  intro hzero
  -- The range starts above zero, so zero is no point in it.
  have hlow := (RoundingRange.gridPoint?_bounds hpoint).1
  rw [hzero, Nat.zero_mul] at hlow
  have hpos := Nat.mul_pos (roundingRange_low_pos h)
    (Nat.pow_pos (by decide : 0 < 10) : 0 < 10 ^ (-x.shortest.2).toNat)
  omega

/-! ### The numeral -/

/-- The numeral of the positional form `0.d₁d₂… * 10^point`. -/
def positionalNumeral (negative : Bool) (digits : List Char) (point : Int) : Numeral :=
  if point ≤ 0 then ⟨negative, ['0'], List.replicate (-point).toNat '0' ++ digits, none⟩
  else
    let rest := digits.drop point.toNat
    ⟨negative, digits.take point.toNat ++ List.replicate (point.toNat - digits.length) '0',
      if rest.isEmpty then ['0'] else rest, none⟩

/-- The numeral of the form `d₁.d₂…e±x`. -/
def scientificNumeral (negative : Bool) (digits : List Char) (power : Int) : Numeral :=
  ⟨negative, digits.take 1, digits.drop 1,
    some (decide (power < 0), Nat.toDigits 10 power.natAbs)⟩

/-- The numeral of a finite double. -/
def numeral (x : Double) : Numeral :=
  if x.isZero then ⟨x.negative, ['0'], ['0'], none⟩
  else
    let (n, p) := x.shortest
    let digits := Nat.toDigits 10 n
    let point := p + digits.length
    if positionalBand.lowest ≤ point - 1 && point - 1 ≤ positionalBand.highest then
      positionalNumeral x.negative digits point
    else scientificNumeral x.negative digits (point - 1)

/-- The parts of a positional numeral make up its text. -/
theorem chars_positionalNumeral (negative : Bool) {digits : List Char} (hne : digits ≠ [])
    (point : Int) :
    (positionalNumeral negative digits point).chars =
      (if negative then ['-'] else []) ++ positional digits point := by
  unfold positionalNumeral positional
  split
  · have hfraction : Numeral.fractionChars (List.replicate (-point).toNat '0' ++ digits) =
        '.' :: (List.replicate (-point).toNat '0' ++ digits) := by
      cases hds : List.replicate (-point).toNat '0' ++ digits with
      | nil => exact absurd (List.append_eq_nil_iff.1 hds).2 hne
      | cons d ds => rfl
    simp [Numeral.chars, hfraction, Numeral.exponentChars]
  · cases hrest : digits.drop point.toNat with
    | nil => simp [Numeral.chars, Numeral.fractionChars, Numeral.exponentChars]
    | cons d ds => simp [Numeral.chars, Numeral.fractionChars, Numeral.exponentChars]

/-- The parts of a scientific numeral make up its text. -/
theorem chars_scientificNumeral (negative : Bool) {digits : List Char} (hne : digits ≠ [])
    (power : Int) :
    (scientificNumeral negative digits power).chars =
      (if negative then ['-'] else []) ++ scientific digits power := by
  obtain ⟨d, ds, rfl⟩ := List.exists_cons_of_ne_nil hne
  cases ds <;> simp [scientificNumeral, scientific, Numeral.chars, Numeral.fractionChars,
    Numeral.exponentChars]

/-- The text of a finite double is its numeral. -/
theorem finiteChars_eq (x : Double) : x.finiteChars = x.numeral.chars := by
  unfold finiteChars numeral
  by_cases hzero : x.isZero = true
  · simp [hzero, Numeral.chars, Numeral.fractionChars, Numeral.exponentChars]
  · simp only [hzero, Bool.false_eq_true, if_false]
    rw [apply_ite Numeral.chars, chars_positionalNumeral _ Nat.toDigits_ne_nil,
      chars_scientificNumeral _ Nat.toDigits_ne_nil, ← apply_ite]

/-! ### Its form -/

/-- A digit string that may stand before further digits. -/
theorem toDigits_ne_zero_cons_of_ne_zero {n : Nat} (hn : n ≠ 0) (ds : List Char) :
    Nat.toDigits 10 n ≠ '0' :: ds := by
  intro h
  cases ds with
  | nil =>
    refine hn ?_
    rw [← Nat.ofDigitChars_ten_toDigits (n := n), h]
    rfl
  | cons d ds => exact Numeral.toDigits_ne_zero_cons n d ds h

theorem isDigit_of_mem_replicate {k : Nat} {c : Char} (h : c ∈ List.replicate k '0') :
    c.isDigit = true := by
  rw [(List.mem_replicate.1 h).2]
  rfl

/-- A positional text is a numeral: no zero leads more than one digit. -/
theorem wellFormed_positionalNumeral (negative : Bool) {digits : List Char} {point : Int}
    (hne : digits ≠ []) (hdigits : ∀ c ∈ digits, c.isDigit = true)
    (hzero : 1 < point → ∀ ds, digits ≠ '0' :: ds) :
    (positionalNumeral negative digits point).WellFormed := by
  unfold positionalNumeral
  split
  · exact {
      whole_ne_nil := by simp
      whole_digits := by simp
      no_leading_zero := by simp
      fraction_digits := by
        intro c hc
        rcases List.mem_append.1 hc with hc | hc
        · exact isDigit_of_mem_replicate hc
        · exact hdigits c hc
      exponent_ne_nil := by simp
      exponent_digits := by simp }
  · rename_i hpoint
    obtain ⟨d, ds, rfl⟩ := List.exists_cons_of_ne_nil hne
    obtain ⟨k, hk⟩ : ∃ k, point.toNat = k + 1 := ⟨point.toNat - 1, by omega⟩
    exact {
      whole_ne_nil := by simp [hk]
      whole_digits := by
        intro c hc
        rcases List.mem_append.1 hc with hc | hc
        · exact hdigits c (List.mem_of_mem_take hc)
        · exact isDigit_of_mem_replicate hc
      no_leading_zero := by
        intro e es h
        -- With the point after the first digit, a zero there stands alone.
        by_cases hone : 1 < point
        · simp only [hk, List.take_succ_cons, List.cons_append, List.cons.injEq] at h
          exact hzero hone ds (by rw [h.1])
        · have hk0 : k = 0 := by omega
          simp [hk, hk0] at h
      fraction_digits := by
        intro c hc
        simp only at hc
        split at hc
        · rw [List.mem_singleton.1 hc]
          rfl
        · exact hdigits c (List.mem_of_mem_drop hc)
      exponent_ne_nil := by simp
      exponent_digits := by simp }

/-- A scientific text is a numeral, as one digit stands before its point. -/
theorem wellFormed_scientificNumeral (negative : Bool) {digits : List Char} (hne : digits ≠ [])
    (hdigits : ∀ c ∈ digits, c.isDigit = true) (power : Int) :
    (scientificNumeral negative digits power).WellFormed where
  whole_ne_nil := by simp [scientificNumeral, hne]
  whole_digits := fun c hc => hdigits c (List.mem_of_mem_take hc)
  no_leading_zero := by
    intro d ds h
    have hlength := congrArg List.length h
    simp only [scientificNumeral, List.length_take, List.length_cons] at hlength
    omega
  fraction_digits := fun c hc => hdigits c (List.mem_of_mem_drop hc)
  exponent_ne_nil := by simp [scientificNumeral]
  exponent_digits := by
    intro p hp c hc
    rw [← Option.some.inj hp] at hc
    exact Text.isDigit_of_mem_toDigits hc

/-- **The text of a finite double is a numeral** of the JSON grammar. -/
theorem wellFormed_numeral (x : Double) : x.numeral.WellFormed := by
  unfold numeral
  split
  · exact {
      whole_ne_nil := by simp
      whole_digits := by simp
      no_leading_zero := by simp
      fraction_digits := by simp
      exponent_ne_nil := by simp
      exponent_digits := by simp }
  · rename_i hzero
    have hdigits : ∀ c ∈ Nat.toDigits 10 x.shortest.1, c.isDigit = true :=
      fun _ => Text.isDigit_of_mem_toDigits
    simp only
    split
    · refine wellFormed_positionalNumeral _ Nat.toDigits_ne_nil hdigits ?_
      intro hpoint
      rcases shortest_cases x with hnone | hsome
      · rw [hnone] at hpoint
        exact absurd hpoint (by decide)
      · exact toDigits_ne_zero_cons_of_ne_zero (shortest_ne_zero (by simpa using hzero) hsome)
    · exact wellFormed_scientificNumeral _ Nat.toDigits_ne_nil hdigits _

/-- Positional texts always have a fraction, if only a zero. -/
theorem fraction_positionalNumeral_ne_nil (negative : Bool) {digits : List Char}
    (hne : digits ≠ []) (point : Int) :
    (positionalNumeral negative digits point).fraction ≠ [] := by
  unfold positionalNumeral
  split
  · simp [hne]
  · simp only
    split
    · simp
    · rename_i hrest
      simpa using hrest

/-- The text of a double is not that of an integer: it has a fraction or an exponent. -/
theorem fraction_or_exponent (x : Double) :
    x.numeral.fraction ≠ [] ∨ x.numeral.exponent ≠ none := by
  unfold numeral
  split
  · exact .inl (by simp)
  · simp only
    split
    · exact .inl (fraction_positionalNumeral_ne_nil _ Nat.toDigits_ne_nil _)
    · exact .inr (by simp [scientificNumeral])

/-- The numeral of a double has a fraction or an exponent, so it is no integer. -/
theorem integer?_numeral (x : Double) : x.numeral.integer? = none := by
  rw [Numeral.integer?, if_neg]
  rcases fraction_or_exponent x with hfraction | hexponent
  · simp [hfraction]
  · simp [hexponent]

end Telemetry.Double
