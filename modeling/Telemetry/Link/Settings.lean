import Telemetry.Link.Backoff

namespace Telemetry.Link

/-!
# Settings of a link

Times are nanoseconds; the setters take milliseconds.
-/

/-- How a link behaves. -/
structure Settings where
  socketPath : String
  /-- how long a message waits for its acknowledgement; without it none is awaited -/
  ackTimeout : Option Nat := none
  /-- the time between rounds of sending again -/
  resendInterval : Nat := millis 30000
  /-- how long a connection is tried; zero tries once -/
  connRetryTimeout : Nat := millis 60000
deriving DecidableEq, Repr

namespace Settings

/-- Sets how long an acknowledgement is awaited; zero is not at all. -/
def setAckTimeout (s : Settings) (ms : Nat) : Settings :=
  { s with ackTimeout := if 0 < ms then some (millis ms) else none }

/-- Sets the time between rounds, one millisecond at least. -/
def setResendInterval (s : Settings) (ms : Nat) : Settings :=
  { s with resendInterval := millis (max ms 1) }

/-- Sets how long a connection is tried. -/
def setConnRetryTimeout (s : Settings) (ms : Nat) : Settings :=
  { s with connRetryTimeout := millis ms }

end Settings

end Telemetry.Link
