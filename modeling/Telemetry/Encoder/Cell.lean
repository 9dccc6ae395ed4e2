import Telemetry.Value.Document

namespace Telemetry.Value

/-!
# Cells

The form in which a value stands in an encoded line.  Scalars are plain JSON; arrays,
maps and bytes are their stringified form as a JSON string, or, for a map on request, its
JSON text as a JSON string.  An absent value is the string `"null"`, not the word: the
receiver expects that text.

* `cellChars`, `cell` — the form of a value.
-/

/-- The characters of a value in a line. -/
def cellChars (mapsAsJson : Bool) : Value → List Char
  | null => Json.quoteChars ['n', 'u', 'l', 'l']
  | bool b => boolChars b
  | int n => (toString n.toInt).toList
  | uint n => (toString n.toNat).toList
  | float x => x.chars
  | time t => timeChars t
  | text s => Json.quoteChars s.toList
  | bytes b => Json.quoteChars (Base64.encodeChars b)
  | array items => Json.quoteChars (array items).chars
  | map entries =>
    Json.quoteChars (if mapsAsJson then (map entries).toDocument.chars else (map entries).chars)

/-- A value in a line. -/
def cell (mapsAsJson : Bool) (v : Value) : String := String.ofList (v.cellChars mapsAsJson)

end Telemetry.Value
