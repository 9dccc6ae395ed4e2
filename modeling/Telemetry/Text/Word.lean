namespace Telemetry.Text

/-!
# Numbers of 64 bits in decimal

* `word?` — digits, after a plus sign perhaps, as a number that fits 64 bits.
-/

/-- The number of a text that has digits only, after a plus sign perhaps. -/
def word? (s : List Char) : Option Nat :=
  let digits := match s with
    | '+' :: rest => rest
    | s => s
  if digits.isEmpty || !digits.all Char.isDigit then none
  else
    let n := Nat.ofDigitChars 10 digits 0
    if n < 0x10000000000000000 then some n else none

end Telemetry.Text
