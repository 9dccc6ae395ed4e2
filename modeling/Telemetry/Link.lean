import Telemetry.Link.Settings
import Telemetry.Ack
import Telemetry.Ack.Lines
import Telemetry.Ack.Pending
import Telemetry.Transport
import Telemetry.Transport.Message

namespace Telemetry

/-!
# Links

A link delivers messages over a stream socket.  It connects when it has something to
write, reads the acknowledgements that come back, and writes again what stays unanswered.

* `Endpoint` — what a link can do to its surroundings.
* `Link` — the state of a link, its surroundings included.
* `Link.send`, `Link.receive`, `Link.resendRound`, `Link.dropConnection`, `Link.close` —
  what can happen to a link.

Each connection has a number, its generation; numbers are never used twice.
-/

/-- What a link can do to its surroundings: read a clock and wait (nanoseconds), connect to
    a path, write to a connection, and end a connection. -/
class Endpoint (ω : Type) where
  now : ω → Nat
  pause : ω → Nat → ω
  connect : ω → (path : String) → (generation : Nat) → Except String Unit × ω
  /-- A write that fails may have written some of the bytes. -/
  write : ω → (generation : Nat) → List UInt8 → Except String Unit × ω
  shutdown : ω → (generation : Nat) → ω

/-- A link in its surroundings. -/
structure Link (ω : Type) where
  world : ω
  settings : Link.Settings
  /-- the generation of the open connection -/
  connection : Option Nat := none
  isStopped : Bool := false
  /-- what was sent and not acknowledged; empty when no acknowledgement is awaited -/
  unanswered : PendingFrames := .empty
  /-- the unfinished line of the open connection -/
  incoming : AckLines := {}
  counted : TransportStats := {}
  /-- connections made so far -/
  generation : Nat := 0
  /-- attempts to connect so far -/
  attempts : Nat := 0
  nextId : Nat := 1
  /-- when the next round of sending again is due -/
  resendAt : Option Nat := none

namespace Link

variable {ω : Type} [Endpoint ω]

/-! ### Connecting -/

/-- Tries to connect once; a new connection begins with no unfinished line. -/
def attempt (l : Link ω) : Except String Nat × Link ω :=
  let generation := l.generation + 1
  match Endpoint.connect l.world l.settings.socketPath generation with
  | (.ok _, world) =>
    (.ok generation, { l with
      world := world
      connection := some generation
      incoming := {}
      generation := generation
      attempts := l.attempts + 1 })
  | (.error reason, world) =>
    (.error reason, { l with world := world, attempts := l.attempts + 1 })

/-- A wait leaves less of the budget. -/
theorem budget_left_lt {budget waited elapsed : Nat} (attempts : Nat)
    (hw : waited ≤ elapsed) (he : elapsed < budget) :
    budget - (elapsed + reconnectDelay attempts (budget - elapsed)) < budget - waited := by
  have : 0 < reconnectDelay attempts (budget - elapsed) :=
    reconnectDelay_pos (Nat.sub_pos_of_lt he)
  omega

/-- Tries to connect until `budget` is used up.  The trying began at `start`; at least
    `waited` of the budget has gone by. -/
def connectWithin (budget start waited : Nat) (l : Link ω) : Except String Nat × Link ω :=
  match l.attempt with
  | (.ok generation, l) => (.ok generation, l)
  | (.error reason, l) =>
    let elapsed := max waited (Endpoint.now l.world - start)
    if l.isStopped || decide (budget ≤ elapsed) then (.error reason, l)
    else
      let delay := reconnectDelay l.attempts (budget - elapsed)
      connectWithin budget start (elapsed + delay)
        { l with world := Endpoint.pause l.world delay }
termination_by budget - waited
decreasing_by
  rename_i h
  simp only [Bool.or_eq_true, decide_eq_true_eq, not_or, Nat.not_le] at h
  exact budget_left_lt _ (Nat.le_max_left _ _) h.2

/-- Connects, and tries again within the time that the settings give. -/
def connectWithRetry (l : Link ω) : Except String Nat × Link ω :=
  connectWithin l.settings.connRetryTimeout (Endpoint.now l.world) 0 l

/-- The open connection, or a new one.  A stopped link makes no connection. -/
def ensureConnected (l : Link ω) : Except String Nat × Link ω :=
  match l.connection with
  | some generation => (.ok generation, l)
  | none => if l.isStopped then (.error "not connected", l) else l.connectWithRetry

/-- Ends a connection, unless another one has taken its place. -/
def dropConnection (l : Link ω) (generation : Nat) : Link ω :=
  if l.connection = some generation then
    { l with world := Endpoint.shutdown l.world generation, connection := none }
  else l

/-- Writes a frame.  A connection on which a write failed is ended. -/
def writeFrame (l : Link ω) (frame : String) : Except String Unit × Link ω :=
  match l.ensureConnected with
  | (.error reason, l) => (.error reason, l)
  | (.ok generation, l) =>
    match Endpoint.write l.world generation (Utf8.encode frame) with
    | (.ok _, world) => (.ok (), { l with world := world })
    | (.error reason, world) =>
      (.error reason, dropConnection { l with world := world } generation)

/-! ### Sending -/

/-- Acknowledgements are awaited. -/
def awaitsAcks (l : Link ω) : Bool := l.settings.ackTimeout.isSome

/-- Fixes the time of the first round, unless it is fixed or no round is ever needed. -/
def startRounds (l : Link ω) : Link ω :=
  if l.awaitsAcks && l.resendAt.isNone then
    { l with resendAt := some (Endpoint.now l.world + l.settings.resendInterval) }
  else l

/-- Remembers a frame until it is acknowledged, when acknowledgements are awaited. -/
def remember (l : Link ω) (id : Nat) (frame : String) : Link ω :=
  if l.awaitsAcks then
    { l with unanswered := l.unanswered.insert id frame (Endpoint.now l.world) }
  else l

/-- Forgets a frame. -/
def forget (l : Link ω) (id : Nat) : Link ω :=
  { l with unanswered := (l.unanswered.remove id).2 }

/-- Delivers a line.  Each send that is not refused uses a number; only what was written is
    remembered. -/
def send (l : Link ω) (source payload : String) : Except Error Unit × Link ω :=
  if l.isStopped then (.error .closed, l)
  else
    let m : Message := ⟨source, l.nextId, payload⟩
    let l := { l.startRounds with nextId := l.nextId + 1 }
    match (l.remember m.id m.frame).writeFrame m.frame with
    | (.ok _, l) => (.ok (), { l with counted := l.counted.countSent })
    | (.error reason, l) =>
      (.error (.sendFailed source reason),
        { l.forget m.id with counted := l.counted.countFailed })

/-! ### Acknowledgements -/

/-- Takes in a line of the receiver.  A line that is no acknowledgement is ignored; any
    other is counted, and its frame waits no longer. -/
def handleAckLine (l : Link ω) (line : String) : Link ω :=
  match Ack.parse? line with
  | none => l
  | some ack => { l.forget ack.id with counted := l.counted.countAcked }

/-- Takes in bytes that came over the open connection. -/
def receive (l : Link ω) (bytes : List UInt8) : Link ω :=
  let (lines, incoming) := l.incoming.feed bytes
  lines.foldl handleAckLine { l with incoming := incoming }

/-! ### Sending again -/

/-- Writes frames again, those that still wait; the first failure ends the round. -/
def writeAgain : List (Nat × String) → Link ω → Link ω
  | [], l => l
  | (id, frame) :: rest, l =>
    if l.unanswered.contains id then
      match l.writeFrame frame with
      | (.ok _, l) => writeAgain rest { l with counted := l.counted.countResent }
      | (.error _, l) => l
    else writeAgain rest l

/-- A round: frames that waited longer than the timeout are dropped, the others are
    written again in ascending order of their numbers. -/
def resendRound (l : Link ω) : Link ω :=
  match l.settings.ackTimeout with
  | none => l
  | some timeout =>
    let (_, unanswered) := l.unanswered.evictExpired timeout (Endpoint.now l.world)
    writeAgain unanswered.snapshot { l with unanswered := unanswered }

/-- A round; the next one is due an interval after its end. -/
def runRound (l : Link ω) : Link ω :=
  let l := l.resendRound
  { l with resendAt := some (Endpoint.now l.world + l.settings.resendInterval) }

/-! ### Closing -/

/-- Stops the link: its connection is ended and no further round is due. -/
def stop (l : Link ω) : Link ω :=
  let l := { l with isStopped := true, resendAt := none }
  match l.connection with
  | none => l
  | some generation => l.dropConnection generation

/-- Closes the link; closing again changes nothing. -/
def close (l : Link ω) : Except Error Unit × Link ω := (.ok (), l.stop)

/-- A connection is open. -/
def isConnected (l : Link ω) : Bool := l.connection.isSome

/-- The number of frames that wait for their acknowledgement. -/
def pending (l : Link ω) : Nat := l.unanswered.size

instance : Transport (Link ω) where
  send := send
  close := close
  name _ := "unix-socket"
  stats l := l.counted

end Link

end Telemetry
