import Telemetry.Error

namespace Telemetry

/-!
# Transports

A transport delivers encoded lines.  It may lie behind memory, a byte sink or a socket.

* `TransportStats` — what a transport has counted.
* `Transport` — what every transport can do.

Numbers that count up, here and elsewhere, have no bound: what has been counted, the numbers of
messages and of connections, attempts to connect, ids of schemas.  Each call counts one up at most,
and where such a number is kept in 64 bits it agrees with this one as long as a run is shorter than
2^64 calls.
-/

/-- What a transport has counted since it was made. -/
structure TransportStats where
  /-- messages delivered -/
  sent : Nat := 0
  /-- sends that failed -/
  failed : Nat := 0
  /-- messages written again while they wait for an answer -/
  resent : Nat := 0
  /-- answers of the receiver -/
  acked : Nat := 0
deriving DecidableEq, Repr

namespace TransportStats

/-- Counts a delivered message. -/
def countSent (s : TransportStats) : TransportStats := { s with sent := s.sent + 1 }

/-- Counts a failed send. -/
def countFailed (s : TransportStats) : TransportStats := { s with failed := s.failed + 1 }

/-- Counts a message written again. -/
def countResent (s : TransportStats) : TransportStats := { s with resent := s.resent + 1 }

/-- Counts an answer. -/
def countAcked (s : TransportStats) : TransportStats := { s with acked := s.acked + 1 }

/-- Counts the outcome of a send. -/
def track {α : Type} (s : TransportStats) : Except Error α → TransportStats
  | .ok _ => s.countSent
  | .error _ => s.countFailed

/-- The diagnostic text. -/
def describe (s : TransportStats) : String :=
  s!"TransportStats \x7b sent: {s.sent}, failed: {s.failed}, resent: {s.resent}, " ++
    s!"acked: {s.acked} \x7d"

end TransportStats

/-- What every transport can do.  A closed transport answers each send with
    `Error.closed`; a send that fails is not tried again. -/
class Transport (τ : Type) where
  /-- Delivers a line under a source name. -/
  send : τ → (source payload : String) → Except Error Unit × τ
  /-- Gives up what the transport holds. -/
  close : τ → Except Error Unit × τ
  /-- A short name. -/
  name : τ → String
  /-- What has been counted. -/
  stats : τ → TransportStats

end Telemetry
