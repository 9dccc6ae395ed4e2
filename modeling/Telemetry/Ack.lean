import Telemetry.Text.Word

namespace Telemetry

/-!
# Acknowledgements

The receiver answers each message with one line: the message's number, and after a colon
a status code.  A number alone means success.

* `AckStatus.ofCode`, `AckStatus.name` — a status by its code, and its name.
* `Ack.parse?` — a line as an acknowledgement.
-/

/-- What became of a message. -/
inductive AckStatus where
  | success
  | failed
  | unknownSchemaId
  | decodeError
  | invalidSource
  | duplicateSchemaId
  | unknown (code : String)
deriving DecidableEq, Repr

namespace AckStatus

/-- The status of a code. -/
def ofCode (code : String) : AckStatus :=
  if code = "0" then success
  else if code = "1" then failed
  else if code = "2" then unknownSchemaId
  else if code = "3" then decodeError
  else if code = "4" then invalidSource
  else if code = "5" then duplicateSchemaId
  else unknown code

/-- The name of a status. -/
def name : AckStatus → String
  | success => "ACK_SUCCESS"
  | failed => "ACK_FAILED"
  | unknownSchemaId => "ACK_UNKNOWN_SCHEMA_ID"
  | decodeError => "ACK_DECODE_ERROR"
  | invalidSource => "ACK_INVALID_SOURCE"
  | duplicateSchemaId => "ACK_DUPLICATE_SCHEMA_ID"
  | unknown code => "Unknown-ACK-CODE(" ++ code ++ ")"

/-- The message was accepted. -/
def isSuccess (s : AckStatus) : Bool := s == success

end AckStatus

/-- An acknowledgement. -/
structure Ack where
  id : Nat
  status : AckStatus
deriving DecidableEq, Repr

namespace Ack

/-- Text without the carriage returns at its end. -/
def trimReturns (s : List Char) : List Char := (s.reverse.dropWhile (· == '\r')).reverse

/-- The status in what follows the number: nothing, or a colon and a code. -/
def readStatus? : List Char → Option AckStatus
  | [] => some .success
  | _ :: [] => none
  | _ :: code => some (.ofCode (String.ofList code))

/-- The acknowledgement of a line. -/
def parse? (line : String) : Option Ack :=
  let s := trimReturns line.toList
  match readStatus? (s.dropWhile (· != ':')), Text.word? (s.takeWhile (· != ':')) with
  | some status, some id => some ⟨id, status⟩
  | _, _ => none

end Ack

end Telemetry
