import Telemetry.Json.Quoted

namespace Telemetry

/-!
# Messages

A message carries one line under a source name and a number.  On the wire it is a JSON
array in brackets, its body, after the body's length in bytes and a line feed.

* `digitCount` — how many digits a number has in decimal.
* `Message.body` — the bracketed part; `Message.bodySize` — its length, from its parts.
* `Message.frame` — what goes on the wire.
-/

/-- The number of decimal digits. -/
def digitCount (n : Nat) : Nat := if n < 10 then 1 else digitCount (n / 10) + 1

/-- One message. -/
structure Message where
  source : String
  id : Nat
  payload : String
deriving DecidableEq, Repr

namespace Message

/-- The bracketed part. -/
def body (m : Message) : String :=
  "[" ++ Json.quote m.source ++ "," ++ toString m.id ++ "," ++ m.payload ++ "]"

/-- The length of the bracketed part, in bytes. -/
def bodySize (m : Message) : Nat :=
  1 + (Json.quote m.source).utf8ByteSize + 1 + digitCount m.id + 1 + m.payload.utf8ByteSize + 1

/-- The length, a line feed, and the bracketed part. -/
def frame (m : Message) : String := toString m.bodySize ++ "\n" ++ m.body

end Message

end Telemetry
