import Telemetry.Toml.Text

namespace Telemetry.Toml

/-!
# Writing documents

Each key stands on a line of its own with its value.  A list of several texts has a line
for each of them.

* `write?` — a document as text, if its integers fit.
-/

/-- A list of texts as written. -/
def writeTexts : List String → List Char
  | [] => ['[', ']']
  | [s] => '[' :: (writeText s.toList ++ [']'])
  | xs => '[' :: '\n' ::
    (xs.flatMap (fun s => "    ".toList ++ writeText s.toList ++ [',', '\n']) ++ [']'])

/-- An integer as written. -/
def writeInteger (n : Int) : List Char :=
  if n < 0 then '-' :: Nat.toDigits 10 n.natAbs else Nat.toDigits 10 n.natAbs

/-- A value as written. -/
def writeValue : Value → List Char
  | .text s => writeText s.toList
  | .integer n => writeInteger n
  | .boolean true => "true".toList
  | .boolean false => "false".toList
  | .texts xs => writeTexts xs

/-- A key with its value. -/
def writeEntry (e : String × Value) : List Char :=
  e.1.toList ++ " = ".toList ++ writeValue e.2 ++ ['\n']

/-- The integers of a value fit. -/
def Value.fits : Value → Bool
  | .integer n => fitsInteger n
  | _ => true

/-- A document as text. -/
def write? (d : Document) : Option String :=
  if d.all (·.2.fits) then some (String.ofList (d.flatMap writeEntry)) else none

end Telemetry.Toml
