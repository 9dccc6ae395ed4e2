import Telemetry.Record
import Telemetry.Schema.WireType

namespace Telemetry.Descriptor

/-!
# Descriptors

The descriptor of a record is what the receiver reads of its shape: a JSON array of
`[name,type]` pairs in field order, after the position of the time column if there is one.

* `text` — the descriptor of a record.
-/

/-- The pair of one field. -/
def fieldChars (name : String) (type : WireType) : List Char :=
  '[' :: (Json.quoteChars name.toList ++ ',' :: '"' :: (type.name.toList ++ ['"', ']']))

/-- The elements of the array: the position of the time column, then a pair per field. -/
def parts (r : Record) (timeIndex : Option Nat) : List (List Char) :=
  (timeIndex.map (Nat.toDigits 10)).toList ++
    r.fields.map fun f => fieldChars f.1 (WireType.of f.2)

/-- The characters of the descriptor. -/
def chars (r : Record) (timeIndex : Option Nat) : List Char :=
  '[' :: ([','].intercalate (parts r timeIndex) ++ [']'])

/-- The descriptor of a record whose time column, if any, is at `timeIndex`. -/
def text (r : Record) (timeIndex : Option Nat) : String := String.ofList (chars r timeIndex)

end Telemetry.Descriptor
