import Telemetry.Instant

namespace Telemetry

/-!
# Values

A value is one cell of a record.  Its kind is decided once, when the record is decoded,
and everything later dispatches on it.

* Integers of different width are different kinds: `uint` is meant for what exceeds `int`.
* A map keeps the order of its entries; its keys are values of any kind, repeats included.
* `Value.same` — equality kind by kind; doubles compare as IEEE-754 numbers, so a NaN
  differs from itself and the two zeros are equal.
-/

/-- A value. -/
inductive Value where
  | null
  | bool (b : Bool)
  | int (n : Int64)
  | uint (n : UInt64)
  | float (x : Double)
  | time (t : Instant)
  | text (s : String)
  | bytes (b : List UInt8)
  | array (items : List Value)
  | map (entries : List (Value × Value))

instance : Inhabited Value := ⟨.null⟩

namespace Value

/-- The name of the kind. -/
def kindName : Value → String
  | null => "Null"
  | bool _ => "Bool"
  | int _ => "Int"
  | uint _ => "UInt"
  | float _ => "Float"
  | time _ => "Time"
  | text _ => "String"
  | bytes _ => "Bytes"
  | array _ => "Array"
  | map _ => "Map"

/-- The absent value. -/
def isNull : Value → Bool
  | null => true
  | _ => false

/-- Arrays, maps and bytes, which are shipped as text. -/
def isComposite : Value → Bool
  | array _ | map _ | bytes _ => true
  | _ => false

/-- The text, if the value is one. -/
def text? : Value → Option String
  | text s => some s
  | _ => none

/-- The signed integer, if the value is one. -/
def int? : Value → Option Int64
  | int n => some n
  | _ => none

/-- The instant, if the value is one. -/
def time? : Value → Option Instant
  | time t => some t
  | _ => none

/-- The entries, if the value is a map. -/
def entries? : Value → Option (List (Value × Value))
  | map entries => some entries
  | _ => none

/-- An unsigned integer: `int` if it fits, else `uint`. -/
def ofUInt64 (n : UInt64) : Value :=
  if n.toNat < 0x8000000000000000 then int (Int64.ofNat n.toNat) else uint n

/-- A signed integer. -/
def ofInt64 (n : Int64) : Value := int n

/-! ### Equality -/

mutual

/-- Equality of values: same kind and equal content, part by part. -/
def same : Value → Value → Bool
  | null, null => true
  | bool a, bool b => a == b
  | int a, int b => a == b
  | uint a, uint b => a == b
  | float a, float b => a.same b
  | time a, time b => a == b
  | text a, text b => a == b
  | bytes a, bytes b => a == b
  | array a, array b => sameItems a b
  | map a, map b => sameEntries a b
  | _, _ => false

/-- Equality of items in order. -/
def sameItems : List Value → List Value → Bool
  | [], [] => true
  | a :: as, b :: bs => same a b && sameItems as bs
  | _, _ => false

/-- Equality of entries in order. -/
def sameEntries : List (Value × Value) → List (Value × Value) → Bool
  | [], [] => true
  | (k, v) :: as, (l, w) :: bs => same k l && same v w && sameEntries as bs
  | _, _ => false

end

end Value

end Telemetry
