namespace Telemetry

/-!
# Errors

Encoding a value never fails.  What can fail is a setting, a file, an inbound record, or
the handoff to a transport; each cause is a constructor, its wording is `Error.message`.
-/

/-- Why an operation failed. -/
inductive Error where
  /-- reading or writing a file or a byte sink -/
  | io (reason : String)
  /-- a setting that is missing, unreadable or inconsistent -/
  | config (reason : String)
  /-- a tag pattern that is no pattern -/
  | invalidPattern (pattern reason : String)
  /-- a line that could not be handed over under a source name -/
  | sendFailed (source reason : String)
  /-- an operation on what has been closed -/
  | closed
  /-- an inbound record of the wrong shape -/
  | serialization (reason : String)
deriving DecidableEq, Repr

namespace Error

/-- The wording of an error. -/
def message : Error → String
  | io reason => "I/O error: " ++ reason
  | config reason => "Configuration error: " ++ reason
  | invalidPattern pattern reason => "Invalid tag pattern '" ++ pattern ++ "': " ++ reason
  | sendFailed source reason =>
    "Sending data (source=" ++ source ++ ") to the agent failed: " ++ reason
  | closed => "Output is closed"
  | serialization reason => "Serialization error: " ++ reason

/-- The error came from the handoff to a transport. -/
def isSendFailure : Error → Bool
  | sendFailed _ _ | closed => true
  | _ => false

end Error

end Telemetry
