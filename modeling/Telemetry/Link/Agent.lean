import Telemetry.Link

namespace Telemetry

/-!
# An agent to rehearse with

* `Agent` — a receiver on a socket path, with a clock that moves only when it is told to;
  the surroundings of a link in a rehearsal.
* `Offline` — surroundings in which no connection can be made.
-/

/-- What lies at the socket path. -/
inductive SocketFile where
  | absent
  /-- a socket file without a listener -/
  | refusing
  | listening
deriving DecidableEq, Repr

/-- The newest connection, as the agent sees it. -/
structure AgentConnection where
  generation : Nat
  /-- the agent has not closed it -/
  isOpen : Bool := true
  /-- the agent takes in what is written -/
  isReading : Bool := true
  /-- the other side has not ended it -/
  isHeld : Bool := true
deriving DecidableEq, Repr

/-- An agent. -/
structure Agent where
  /-- nanoseconds -/
  clock : Nat := 0
  file : SocketFile := .absent
  /-- when the agent will begin to listen -/
  opensAt : Option Nat := none
  /-- connections made so far -/
  accepted : Nat := 0
  newest : Option AgentConnection := none
  /-- the agent saw the end of its newest connection -/
  sawEnd : Bool := false
  /-- bytes that arrived and are not read yet, latest part first -/
  arrived : List (List UInt8) := []

namespace Agent

/-- Begins to listen when its time has come. -/
def wakeUp (a : Agent) : Agent :=
  match a.opensAt with
  | some t => if t ≤ a.clock then { a with file := .listening, opensAt := none } else a
  | none => a

/-- Lets time go by until `t`. -/
def advanceTo (a : Agent) (t : Nat) : Agent := wakeUp { a with clock := max a.clock t }

/-- Accepts a connection, if the agent listens. -/
def connect (a : Agent) (generation : Nat) : Except String Unit × Agent :=
  match a.file with
  | .absent => (.error "No such file or directory (os error 2)", a)
  | .refusing => (.error "Connection refused (os error 111)", a)
  | .listening =>
    (.ok (), { a with
      accepted := a.accepted + 1
      newest := some { generation := generation }
      sawEnd := false })

/-- Takes in bytes, if the connection is the newest and both sides keep it open. -/
def write (a : Agent) (generation : Nat) (bytes : List UInt8) : Except String Unit × Agent :=
  match a.newest with
  | none => (.error "Broken pipe (os error 32)", a)
  | some c =>
    if c.generation = generation && c.isOpen && c.isReading && c.isHeld then
      (.ok (), { a with arrived := bytes :: a.arrived })
    else (.error "Broken pipe (os error 32)", a)

/-- The other side ends a connection.  The agent sees it unless it closed its own side. -/
def shutdown (a : Agent) (generation : Nat) : Agent :=
  match a.newest with
  | none => a
  | some c =>
    if c.generation = generation then
      { a with newest := some { c with isHeld := false }, sawEnd := a.sawEnd || c.isOpen }
    else a

instance : Endpoint Agent where
  now a := a.clock
  pause a delay := a.advanceTo (a.clock + delay)
  connect a _ generation := a.connect generation
  write := write
  shutdown := shutdown

/-- Begins to listen. -/
def listen (a : Agent) : Agent := { a with file := .listening, opensAt := none }

/-- Stops listening and removes the socket file. -/
def unlisten (a : Agent) : Agent := { a with file := .absent, opensAt := none }

/-- Stops listening and leaves the socket file, if there is one. -/
def refuse (a : Agent) : Agent :=
  { a with file := if a.file = .listening then .refusing else a.file, opensAt := none }

/-- The connection on which the agent can write. -/
def replyTo? (a : Agent) : Option Nat :=
  a.newest.bind fun c => if c.isOpen && c.isHeld then some c.generation else none

/-- Takes in nothing more; what is written then fails. -/
def stopReading (a : Agent) : Agent :=
  match a.newest with
  | none => a
  | some c =>
    if c.isOpen then
      { a with newest := some { c with isReading := false }, sawEnd := true }
    else a

/-- Closes its side of the newest connection; what was not read is lost. -/
def hangUp (a : Agent) : Agent :=
  match a.newest with
  | none => a
  | some c => { a with newest := some { c with isOpen := false }, arrived := [] }

/-- The bytes that arrived and are not read yet. -/
def unread (a : Agent) : List UInt8 := a.arrived.reverse.flatten

/-- Reads what arrived. -/
def read (a : Agent) : List UInt8 × Agent := (a.unread, { a with arrived := [] })

end Agent

/-- Surroundings in which every attempt to connect fails for one reason. -/
structure Offline where
  reason : String
  clock : Nat := 0

namespace Offline

instance : Endpoint Offline where
  now o := o.clock
  pause o delay := { o with clock := o.clock + delay }
  connect o _ _ := (.error o.reason, o)
  write o _ _ := (.error o.reason, o)
  shutdown o _ := o

end Offline

end Telemetry
