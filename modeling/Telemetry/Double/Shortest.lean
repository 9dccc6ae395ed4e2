import Telemetry.Double

namespace Telemetry.Double

/-!
# Shortest decimals of a double

Among the decimals that round to a given positive double, those with the fewest
digits are kept, and of these the nearest to the double; an exact tie goes to the
even digit.  The search goes down the decimal grids: on each one the only points
worth testing are the two neighbours of the double.

* `RoundingRange` — the reals that round to a double, over a common denominator.
* `RoundingRange.gridPoint?` — the best point of one decimal grid inside the range.
* `shortest` — digits and exponent of the chosen decimal.
-/

/-- The reals between `low / den` and `high / den` round to the double `mid / den`;
    the ends belong to the range when the significand is even. -/
structure RoundingRange where
  low : Nat
  mid : Nat
  high : Nat
  den : Nat
  closed : Bool

/-- The range of a finite double other than zero.  Its lower half is half as wide at a
    power of two, where the doubles below lie closer. -/
def roundingRange (x : Double) : RoundingRange :=
  let m := x.significand
  let gapBelow := if x.fraction = 0 && decide (1 < x.exponent) then 1 else 2
  let closed := m % 2 == 0
  let unit := Nat.pow 2 (x.scale - 1076)
  ⟨(4 * m - gapBelow) * unit, 4 * m * unit, (4 * m + 2) * unit, Nat.pow 2 (1076 - x.scale), closed⟩

namespace RoundingRange

/-- The range with all its numerators multiplied. -/
def times (r : RoundingRange) (k : Nat) : RoundingRange :=
  { r with low := r.low * k, mid := r.mid * k, high := r.high * k }

/-- Whether `point / den` lies in the range. -/
def holds (r : RoundingRange) (point : Nat) : Bool :=
  if r.closed then decide (r.low ≤ point) && decide (point ≤ r.high)
  else decide (r.low < point) && decide (point < r.high)

/-- The multiple of 10^p inside the range that is nearest to its middle, as a count of
    10^p; `none` when no multiple lies in the range. -/
def gridPoint? (range : RoundingRange) (p : Int) : Option Nat :=
  let r := range.times (Nat.pow 10 (-p).toNat)
  let step := r.den * Nat.pow 10 p.toNat
  let below := r.mid / step
  let downward := r.mid - below * step
  let upward := (below + 1) * step - r.mid
  match r.holds (below * step), r.holds ((below + 1) * step) with
  | false, false => none
  | true, false => some below
  | false, true => some (below + 1)
  | true, true =>
    if downward < upward then some below
    else if upward < downward then some (below + 1)
    else if below % 2 = 0 then some below
    else some (below + 1)

/-- An exponent of ten whose power is above the middle of the range. -/
def leadingPower (r : RoundingRange) : Int :=
  ((r.mid.log2 : Int) - r.den.log2 + 1) * 30103 / 100000 + 1

/-- The first grid with a point, from 10^p downward over the given number of grids. -/
def firstPoint? (r : RoundingRange) (p : Int) : Nat → Option (Nat × Int)
  | 0 => none
  | grids + 1 =>
    match r.gridPoint? p with
    | some n => some (n, p)
    | none => r.firstPoint? (p - 1) grids

end RoundingRange

/-- Digits `n` and exponent `p` of the shortest decimal `n * 10^p` that rounds to the
    magnitude of a finite double other than zero.  Seventeen digits always suffice. -/
def shortest (x : Double) : Nat × Int :=
  let r := x.roundingRange
  (r.firstPoint? r.leadingPower 20).getD (0, 0)

end Telemetry.Double
