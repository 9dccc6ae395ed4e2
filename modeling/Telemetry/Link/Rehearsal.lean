import Telemetry.Link.Agent

namespace Telemetry

/-!
# Rehearsals

A link and an agent act in turn.  Each turn takes a nanosecond; rounds of sending again
that fall due in a turn, or in the wait after it, are run at their time.

* `Rehearsal.Turn` — what one of the two does.
* `Rehearsal.Goal` — what is waited for after a turn.
* `Rehearsal.run` — a turn and its wait; the agent then reads what arrived.
-/

namespace Rehearsal

/-- What the link or the agent does. -/
inductive Turn where
  /-- nothing, until time has gone by -/
  | idle
  | listen
  | unlisten
  | refuse
  /-- the link delivers a line; the agent begins to listen some milliseconds later -/
  | send (source payload : String) (listenAfter : Option Nat) (unread : Bool)
  /-- the agent answers with bytes -/
  | reply (bytes : List UInt8)
  | hangUp
  | stopReading
  | close

/-- What is waited for.  Counts are reached from below, except that exactly `pending`
    frames shall wait for their acknowledgement. -/
structure Goal where
  acked : Nat := 0
  resent : Nat := 0
  attempts : Nat := 0
  /-- bytes that the agent has not read yet -/
  bytes : Nat := 0
  pending : Option Nat := none
  /-- thirty milliseconds more are waited -/
  settle : Bool := false

/-- The goal is reached. -/
def Goal.isReached (g : Goal) (l : Link Agent) : Bool :=
  decide (g.acked ≤ l.counted.acked) && decide (g.resent ≤ l.counted.resent) &&
    decide (g.attempts ≤ l.attempts) && decide (g.bytes ≤ l.world.unread.length) &&
    g.pending.all (· == l.pending)

/-- Lets time go by until `t`. -/
def advanceTo (l : Link Agent) (t : Nat) : Link Agent :=
  { l with world := l.world.advanceTo t }

/-- Lets time go by until the deadline, or until `done`; rounds are run just after they
    fall due.  It is `now` or later. -/
def elapse (done : Link Agent → Bool) (deadline now : Nat) (l : Link Agent) : Link Agent :=
  if done l then l
  else
    match l.resendAt with
    | none => advanceTo l deadline
    | some due =>
      let wake := max now due + 1
      if wake ≤ deadline then elapse done deadline wake (advanceTo l wake).runRound
      else advanceTo l deadline
termination_by deadline - now
decreasing_by omega

/-- Lets a span of time go by, or less if `done`. -/
def elapseFor (done : Link Agent → Bool) (span : Nat) (l : Link Agent) : Link Agent :=
  elapse done (l.world.clock + span) l.world.clock l

/-- Changes what the agent does. -/
def withAgent (l : Link Agent) (f : Agent → Agent) : Link Agent :=
  { l with world := f l.world }

/-- Delivers a line while the agent may begin to listen.  In the end it listens. -/
def sendListening (l : Link Agent) (source payload : String) (ms : Nat) :
    Except Error Unit × Link Agent :=
  let opensAt := l.world.clock + Link.millis ms
  let (r, l) := (withAgent l ({ · with opensAt := some opensAt })).send source payload
  (r, withAgent (advanceTo l opensAt) Agent.listen)

/-- Takes a turn; turns of the link have an outcome. -/
def take (l : Link Agent) : Turn → Option (Except Error Unit) × Link Agent
  | .idle => (none, l)
  | .listen => (none, withAgent l Agent.listen)
  | .unlisten => (none, withAgent l Agent.unlisten)
  | .refuse => (none, withAgent l Agent.refuse)
  | .send source payload listenAfter _ =>
    let (r, l) := match listenAfter with
      | none => l.send source payload
      | some ms => sendListening l source payload ms
    (some r, l)
  | .reply bytes => (none, if l.world.replyTo?.isSome then l.receive bytes else l)
  | .hangUp =>
    let generation? := l.world.newest.map (·.generation)
    let l := withAgent l Agent.hangUp
    (none, match generation? with
      | some generation => l.dropConnection generation
      | none => l)
  | .stopReading => (none, withAgent l Agent.stopReading)
  | .close =>
    let (r, l) := l.close
    (some r, l)

/-- The agent reads nothing after this turn. -/
def Turn.leavesUnread : Turn → Bool
  | .send _ _ _ unread => unread
  | _ => false

/-- How long a goal is waited for, in nanoseconds. -/
def patience : Nat := Link.millis 2000

/-- Takes a turn and waits for its goal.  The outcome of the turn, the bytes that the agent
    read, and the link afterwards. -/
def run (l : Link Agent) (turn : Turn) (goal : Goal) :
    Option (Except Error Unit) × List UInt8 × Link Agent :=
  let (outcome, l) := take l turn
  let l := elapseFor (fun _ => false) 1 l
  let l := elapseFor goal.isReached patience l
  let l := if goal.settle then elapseFor (fun _ => false) (Link.millis 30) l else l
  if turn.leavesUnread then (outcome, [], l)
  else
    let (bytes, agent) := l.world.read
    (outcome, bytes, { l with world := agent })

end Rehearsal

end Telemetry
