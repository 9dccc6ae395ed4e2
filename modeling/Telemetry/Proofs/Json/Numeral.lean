import Telemetry.Json.Number
import Telemetry.Proofs.Text.Delimited

namespace Telemetry.Json

/-!
# Numerals read back

A numeral written part by part is read as those parts, and the reader stops where the
numeral ends.

* `endsToken` — the characters that cannot continue a numeral.
* `Numeral.WellFormed`, `Numeral.chars` — the grammar, and the written form of a numeral.
* `Numeral.read?_chars` — the written form is read back in front of any rest that starts
  with such a character.
* `Numeral.ofInt`, `Numeral.value?_ofInt` — the numeral of an integer, and its value.
-/

open Text (StartsIn startsIn_nil startsIn_cons takeWhile_isDigit_append)

/-- The characters that cannot continue a numeral. -/
def endsToken (c : Char) : Prop := c.isDigit = false ∧ c ≠ '.' ∧ c ≠ 'e' ∧ c ≠ 'E'

instance (c : Char) : Decidable (endsToken c) :=
  inferInstanceAs (Decidable (c.isDigit = false ∧ c ≠ '.' ∧ c ≠ 'e' ∧ c ≠ 'E'))

namespace Numeral

/-! ### The written form -/

/-- A numeral that the grammar admits: digits where digits belong, at least one where one
    must be, and no superfluous leading zero. -/
structure WellFormed (n : Numeral) : Prop where
  whole_ne_nil : n.whole ≠ []
  whole_digits : ∀ c ∈ n.whole, c.isDigit = true
  no_leading_zero : ∀ d ds, n.whole ≠ '0' :: d :: ds
  fraction_digits : ∀ c ∈ n.fraction, c.isDigit = true
  exponent_ne_nil : ∀ p ∈ n.exponent, p.2 ≠ []
  exponent_digits : ∀ p ∈ n.exponent, ∀ c ∈ p.2, c.isDigit = true

/-- The point and the digits after it. -/
def fractionChars : List Char → List Char
  | [] => []
  | ds => '.' :: ds

/-- The exponent with its mark and its sign. -/
def exponentChars : Option (Bool × List Char) → List Char
  | none => []
  | some (negative, ds) => 'e' :: (if negative then '-' else '+') :: ds

/-- The written form of a numeral. -/
def chars (n : Numeral) : List Char :=
  (if n.negative then ['-'] else []) ++
    (n.whole ++ (fractionChars n.fraction ++ exponentChars n.exponent))

/-! ### The parts -/

/-- Digits are read up to the first character that is none. -/
theorem readDigits_append {ds rest : List Char} (hne : ds ≠ []) (hds : ∀ c ∈ ds, c.isDigit = true)
    (hrest : StartsIn (fun c => c.isDigit = false) rest) :
    readDigits (ds ++ rest) = some (ds, rest) := by
  obtain ⟨htake, hdrop⟩ := takeWhile_isDigit_append hds hrest
  simp [readDigits, htake, hdrop, hne]

/-- Digits without a superfluous zero are read up to what is no digit. -/
theorem readWhole_append {ds rest : List Char} (hne : ds ≠ []) (hds : ∀ c ∈ ds, c.isDigit = true)
    (hzero : ∀ e es, ds ≠ '0' :: e :: es) (hrest : StartsIn (fun c => c.isDigit = false) rest) :
    readWhole (ds ++ rest) = some (ds, rest) := by
  rw [readWhole, readDigits_append hne hds hrest]
  split
  · rename_i e es _ heq
    simp only [Option.some.injEq, Prod.mk.injEq] at heq
    exact absurd heq.1 (hzero e es)
  · rfl

/-- A fraction is read up to what is no digit, and its absence where no point is. -/
theorem readFraction_append {ds rest : List Char} (hds : ∀ c ∈ ds, c.isDigit = true)
    (hrest : StartsIn (fun c => c.isDigit = false ∧ c ≠ '.') rest) :
    readFraction (fractionChars ds ++ rest) = some (ds, rest) := by
  cases ds with
  | nil =>
    rw [fractionChars, List.nil_append]
    unfold readFraction
    split
    · exact absurd rfl (startsIn_cons.1 hrest).2
    · rfl
  | cons d ds =>
    exact readDigits_append (by simp) hds (hrest.mono fun _ h => h.1)

/-- An exponent is read up to the end of the token, and so is its absence. -/
theorem readExponent_append {e : Option (Bool × List Char)} {rest : List Char}
    (hne : ∀ p ∈ e, p.2 ≠ []) (hds : ∀ p ∈ e, ∀ c ∈ p.2, c.isDigit = true)
    (hrest : StartsIn endsToken rest) :
    readExponent (exponentChars e ++ rest) = some (e, rest) := by
  cases e with
  | none =>
    cases rest with
    | nil => rfl
    | cons c rest =>
      obtain ⟨-, -, he, hE⟩ := startsIn_cons.1 hrest
      simp [exponentChars, readExponent, he, hE]
  | some p =>
    obtain ⟨negative, ds⟩ := p
    have hread := readDigits_append (hne _ rfl) (hds _ rfl) (hrest.mono fun _ h => h.1)
    cases negative <;> simp [exponentChars, readExponent, readSign, hread]

/-- What comes after the whole part of a numeral is no digit. -/
theorem startsIn_fraction_exponent (ds : List Char) (e : Option (Bool × List Char))
    {rest : List Char} (hrest : StartsIn endsToken rest) :
    StartsIn (fun c => c.isDigit = false) (fractionChars ds ++ (exponentChars e ++ rest)) := by
  cases ds with
  | nil =>
    cases e with
    | none => exact hrest.mono fun _ h => h.1
    | some p => exact startsIn_cons.2 rfl
  | cons d ds => exact startsIn_cons.2 rfl

/-- An exponent does not go on with a digit or a point of the fraction before it. -/
theorem startsIn_exponent (e : Option (Bool × List Char)) {rest : List Char}
    (hrest : StartsIn endsToken rest) :
    StartsIn (fun c => c.isDigit = false ∧ c ≠ '.') (exponentChars e ++ rest) := by
  cases e with
  | none => exact hrest.mono fun _ h => ⟨h.1, h.2.1⟩
  | some p => exact startsIn_cons.2 (by decide)

/-- A sign is taken off, and a digit is no sign. -/
theorem readMinus_append {negative : Bool} {ds rest : List Char} (hne : ds ≠ [])
    (hds : ∀ c ∈ ds, c.isDigit = true) :
    readMinus ((if negative then ['-'] else []) ++ (ds ++ rest)) = (negative, ds ++ rest) := by
  cases negative with
  | true => rfl
  | false =>
    obtain ⟨d, ds, rfl⟩ := List.exists_cons_of_ne_nil hne
    have hd : d ≠ '-' := by
      rintro rfl
      exact absurd (hds '-' (by simp)) (by decide)
    unfold readMinus
    split
    · rename_i heq
      simp only [Bool.false_eq_true, if_false, List.nil_append, List.cons_append,
        List.cons.injEq] at heq
      exact absurd heq.1 hd
    · rfl

/-- **A numeral is read as its parts,** in front of any rest that cannot continue it. -/
theorem read?_chars {n : Numeral} (hn : n.WellFormed) {rest : List Char}
    (hrest : StartsIn endsToken rest) : read? (n.chars ++ rest) = some (n, rest) := by
  have hwhole := readWhole_append hn.whole_ne_nil hn.whole_digits hn.no_leading_zero
    (startsIn_fraction_exponent n.fraction n.exponent hrest)
  have hfraction := readFraction_append hn.fraction_digits (startsIn_exponent n.exponent hrest)
  have hexponent := readExponent_append hn.exponent_ne_nil hn.exponent_digits hrest
  simp only [chars, List.append_assoc, read?, readMinus_append hn.whole_ne_nil hn.whole_digits,
    hwhole, hfraction, hexponent]

/-! ### Integers -/

/-- Decimal digits have no superfluous leading zero. -/
theorem toDigits_ne_zero_cons (n : Nat) (d : Char) (ds : List Char) :
    Nat.toDigits 10 n ≠ '0' :: d :: ds := by
  -- The digits of `n` start with those of `n / 10`.
  induction n using Nat.strongRecOn generalizing d ds with
  | _ n ih =>
    by_cases hn : n < 10
    · rw [Nat.toDigits_of_lt_base hn]
      simp
    · rw [Nat.toDigits_of_base_le (by decide) (Nat.not_lt.1 hn)]
      intro h
      -- The leading digit is that of `n / 10`, which is not zero.
      cases hq : Nat.toDigits 10 (n / 10) with
      | nil => exact absurd hq Nat.toDigits_ne_nil
      | cons c cs =>
        rw [hq, List.cons_append, List.cons.injEq] at h
        cases cs with
        | nil =>
          have hzero : n / 10 = 0 := by
            rw [← Nat.ofDigitChars_ten_toDigits (n := n / 10), hq, h.1]
            rfl
          omega
        | cons e es => exact ih (n / 10) (by omega) e es (by rw [hq, h.1])

/-- The numeral of an integer. -/
def ofInt (n : Int) : Numeral := ⟨decide (n < 0), Nat.toDigits 10 n.natAbs, [], none⟩

/-- An integer is written without a superfluous zero. -/
theorem wellFormed_ofInt (n : Int) : (ofInt n).WellFormed where
  whole_ne_nil := Nat.toDigits_ne_nil
  whole_digits := fun _ => Text.isDigit_of_mem_toDigits
  no_leading_zero := toDigits_ne_zero_cons n.natAbs
  fraction_digits := by simp [ofInt]
  exponent_ne_nil := by simp [ofInt]
  exponent_digits := by simp [ofInt]

/-- Integers are told apart by their numerals. -/
theorem ofInt_inj {m n : Int} (h : ofInt m = ofInt n) : m = n := by
  have hsign := congrArg negative h
  have hdigits := congrArg (fun k => Nat.ofDigitChars 10 k.whole 0) h
  simp only [ofInt, Nat.ofDigitChars_ten_toDigits] at hsign hdigits
  by_cases hm : m < 0
  · have hn : n < 0 := by simpa [hm] using hsign
    omega
  · have hn : ¬ n < 0 := by simpa [hm] using hsign
    omega

/-- The text of an integer is its numeral. -/
theorem toList_toString_int (n : Int) : (toString n).toList = (ofInt n).chars := by
  rw [Int.toString_eq_repr, Int.repr_eq_if]
  by_cases hn : 0 ≤ n
  · have habs : n.natAbs = n.toNat := by omega
    simp [ofInt, chars, fractionChars, exponentChars, hn, habs]
  · have habs : n.natAbs = (-n).toNat := by omega
    simp [ofInt, chars, fractionChars, exponentChars, hn, Int.not_le.1 hn, habs]

theorem toDigits_eq_chars_ofInt (n : Nat) : Nat.toDigits 10 n = (ofInt n).chars := by
  simp [ofInt, chars, fractionChars, exponentChars]

/-- **An integer of 64 bits is read as itself.** -/
theorem value?_ofInt {n : Int} (hn : -0x8000000000000000 ≤ n ∧ n < 0x10000000000000000) :
    (ofInt n).value? = some (.integer n hn) := by
  have hint : (ofInt n).integer? = some n := by
    simp only [integer?, ofInt, List.isEmpty_nil, Option.isNone_none, Bool.and_self, if_true,
      Nat.ofDigitChars_ten_toDigits]
    -- A negative number and any other have different bounds on their digits.
    by_cases hneg : n < 0
    · have hpos : 0 < n.natAbs := by omega
      have hrange : n.natAbs ≤ 0x8000000000000000 := by omega
      have habs : -(n.natAbs : Int) = n := by omega
      simp only [hneg, hpos, hrange, habs, decide_true, Bool.and_self, if_true]
    · have hrange : n.natAbs < 0x10000000000000000 := by omega
      have habs : (n.natAbs : Int) = n := by omega
      simp only [hneg, hrange, habs, decide_false, Bool.false_eq_true, if_false, if_true]
  simp only [value?, hint]
  rw [dif_pos hn]

end Numeral

end Telemetry.Json
