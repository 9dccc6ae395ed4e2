import Telemetry.Record
import Telemetry.Schema.WireType

namespace Telemetry

/-!
# Signatures

The signature of a record is the text under which its schema is looked up: the quoted
name and the wire type of each field in order, after the position of the time column if
there is one.  Names are quoted, so a comma in a name cannot pass for a separator.

* `Signature.of` — the signature of a record.
* `Signature.describe` — its diagnostic text.
-/

/-- A key of the schema table. -/
structure Signature where
  key : String
deriving DecidableEq, Repr

namespace Signature

/-- The part of the key that stands for the time column. -/
def timeChars : Option Nat → List Char
  | none => []
  | some i => '@' :: (Nat.toDigits 10 i ++ [','])

/-- The part of the key that stands for one field. -/
def fieldChars (name : String) (type : WireType) : List Char :=
  Json.quoteChars name.toList ++ ',' :: (type.name.toList ++ [','])

/-- The characters of the key. -/
def chars (r : Record) (timeIndex : Option Nat) : List Char :=
  timeChars timeIndex ++ r.fields.flatMap fun f => fieldChars f.1 (WireType.of f.2)

/-- The signature of a record whose time column, if any, is at `timeIndex`. -/
def of (r : Record) (timeIndex : Option Nat) : Signature :=
  ⟨String.ofList (chars r timeIndex)⟩

/-- The diagnostic text. -/
def describe (s : Signature) : String := "Signature(" ++ s.key ++ ")"

end Signature

end Telemetry
