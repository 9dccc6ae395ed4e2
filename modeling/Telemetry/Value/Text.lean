import Telemetry.Value
import Telemetry.Text.Base64
import Telemetry.Json.Quoted
import Telemetry.Double.Text

namespace Telemetry.Value

/-!
# Stringified values

The plain text of a value, which is shipped when an array or a map becomes a cell.
Texts inside are JSON-quoted and bytes are quoted base64; items are set apart by a comma
and a blank, a key from its value by a colon and a blank.  An instant is `[secs,nanos]`
without a blank, which tells it from an array of two integers.

* `chars`, `display` — the text.
-/

/-- The characters of `true` and `false`. -/
def boolChars (b : Bool) : List Char :=
  if b then ['t', 'r', 'u', 'e'] else ['f', 'a', 'l', 's', 'e']

/-- The characters of an instant. -/
def timeChars (t : Instant) : List Char :=
  '[' :: ((toString t.secs.toInt).toList ++ ',' :: ((toString t.nanos).toList ++ [']']))

mutual

/-- The characters of a value. -/
def chars : Value → List Char
  | null => ['n', 'u', 'l', 'l']
  | bool b => boolChars b
  | int n => (toString n.toInt).toList
  | uint n => (toString n.toNat).toList
  | float x => x.chars
  | time t => timeChars t
  | text s => Json.quoteChars s.toList
  | bytes b => Json.quoteChars (Base64.encode b).toList
  | array items => '[' :: (itemsChars items ++ [']'])
  | map entries => '{' :: (entriesChars entries ++ ['}'])

/-- The characters of items. -/
def itemsChars : List Value → List Char
  | [] => []
  | [v] => chars v
  | v :: vs => chars v ++ ',' :: ' ' :: itemsChars vs

/-- The characters of entries. -/
def entriesChars : List (Value × Value) → List Char
  | [] => []
  | [(k, v)] => chars k ++ ':' :: ' ' :: chars v
  | (k, v) :: es => chars k ++ ':' :: ' ' :: (chars v ++ ',' :: ' ' :: entriesChars es)

end

/-- The stringified form. -/
def display (v : Value) : String := String.ofList v.chars

end Telemetry.Value
