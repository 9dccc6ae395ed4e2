import Telemetry.Double.Shortest

namespace Telemetry.Double

/-!
# Text of a double

A finite double is written as its shortest decimal.  Within a band of magnitudes the
decimal is positional and an integral value ends in `.0`; outside the band it has an
exponent with a sign.  A NaN or an infinity has no decimal and is written `null`.
-/

/-- The decimal exponents (of the leading digit) that are written positionally. -/
structure PositionalBand where
  lowest : Int
  highest : Int

/-- Magnitudes from 10^-5 up to, but not including, 10^16 are positional. -/
def positionalBand : PositionalBand := ⟨-5, 15⟩

/-- The positional form of `0.d₁d₂… * 10^point`. -/
def positional (digits : List Char) (point : Int) : List Char :=
  if point ≤ 0 then '0' :: '.' :: (List.replicate (-point).toNat '0' ++ digits)
  else
    let whole := digits.take point.toNat
    let rest := digits.drop point.toNat
    whole ++ List.replicate (point.toNat - digits.length) '0' ++
      '.' :: (if rest.isEmpty then ['0'] else rest)

/-- The form `d₁.d₂…e±x` of `d₁.d₂… * 10^x`. -/
def scientific (digits : List Char) (power : Int) : List Char :=
  let mantissa := match digits with
    | [] => ['0']
    | [d] => [d]
    | d :: rest => d :: '.' :: rest
  mantissa ++ 'e' :: (if power < 0 then '-' else '+') :: Nat.toDigits 10 power.natAbs

/-- The characters of a finite double. -/
def finiteChars (x : Double) : List Char :=
  let sign := if x.negative then ['-'] else []
  if x.isZero then sign ++ ['0', '.', '0']
  else
    let (n, p) := x.shortest
    let digits := Nat.toDigits 10 n
    let point := p + digits.length
    sign ++
      if positionalBand.lowest ≤ point - 1 && point - 1 ≤ positionalBand.highest then
        positional digits point
      else scientific digits (point - 1)

/-- The characters of a double. -/
def chars (x : Double) : List Char :=
  if x.isFinite then x.finiteChars else ['n', 'u', 'l', 'l']

/-- The text of a double. -/
def text (x : Double) : String := String.ofList x.chars

end Telemetry.Double
