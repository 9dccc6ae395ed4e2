import Telemetry.Value

namespace Telemetry

/-!
# Wire types

The receiver knows five types of column.  Every kind of value has one of them: what has
none of its own travels as text.

* `WireType.of` — the type of a value.
* `WireType.name` — its name in a descriptor.
-/

/-- The type of a column. -/
inductive WireType where
  | bool
  | int64
  | double
  | time
  | string
deriving DecidableEq, Repr

namespace WireType

/-- The type under which a value travels. -/
def of : Value → WireType
  | .bool _ => bool
  | .int _ | .uint _ => int64
  | .float _ => double
  | .time _ => time
  | .text _ | .null | .bytes _ | .array _ | .map _ => string

/-- The name of a type in a descriptor. -/
def name : WireType → String
  | bool => "FT_BOOL"
  | int64 => "FT_INT64"
  | double => "FT_DOUBLE"
  | time => "FT_TIME"
  | string => "FT_STRING"

end WireType

end Telemetry
