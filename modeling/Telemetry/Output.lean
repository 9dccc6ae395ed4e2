import Telemetry.Config
import Telemetry.Transport

namespace Telemetry

/-!
# Outputs

An output encodes records and hands their lines to a transport.

* `Output.new` — the output of a configuration, with a registry that has seen nothing.
* `Output.handle` — one record: sent, dropped because its line is too long, or failed.
* `Output.writeTimed`, `Output.writeBatch` — entries in order, with the clock read for each
  or standing still; the first failure ends the batch.
* `Output.close` — closes the transport once; what comes later is refused.
-/

/-- What became of a record. -/
inductive Delivery where
  | sent
  | dropped
deriving DecidableEq, Repr

/-- What became of the records of a batch. -/
structure BatchSummary where
  sent : Nat := 0
  dropped : Nat := 0
deriving DecidableEq, Repr

/-- What an output has counted. -/
structure OutputStats where
  sent : Nat
  dropped : Nat
  failed : Nat
  /-- distinct schemas -/
  schemas : Nat
deriving DecidableEq, Repr

/-- A record with its tag and its time. -/
structure Entry where
  tag : String
  time : Instant
  record : Record

/-- An output over a transport. -/
structure Output (τ : Type) where
  encoder : Encoder
  registry : Registry := .empty
  transport : τ
  sent : Nat := 0
  dropped : Nat := 0
  failed : Nat := 0
  isClosed : Bool := false

namespace BatchSummary

/-- Counts a record. -/
def add (s : BatchSummary) : Delivery → BatchSummary
  | .sent => { s with sent := s.sent + 1 }
  | .dropped => { s with dropped := s.dropped + 1 }

end BatchSummary

namespace OutputStats

/-- The diagnostic text. -/
def describe (s : OutputStats) : String :=
  s!"OutputStats \x7b sent: {s.sent}, dropped: {s.dropped}, failed: {s.failed}, " ++
    s!"schemas: {s.schemas} \x7d"

end OutputStats

namespace Output

variable {τ : Type}

/-- The output of a valid configuration. -/
def new (c : Config) (transport : τ) : Except Error (Output τ) :=
  match c.validate with
  | .error e => .error e
  | .ok _ =>
    (Encoder.new c.encoderSettings).map fun encoder =>
      { encoder := encoder, transport := transport }

/-- What an output has counted. -/
def stats (o : Output τ) : OutputStats := ⟨o.sent, o.dropped, o.failed, o.registry.size⟩

/-- A transport's error as the error of a send under a source name. -/
def handoffError (source : String) : Error → Error
  | .closed => .closed
  | .sendFailed s reason => .sendFailed s reason
  | e => .sendFailed source e.message

/-- Whatever went wrong in a transport is a failure to send. -/
theorem isSendFailure_handoffError (source : String) (e : Error) :
    (handoffError source e).isSendFailure = true := by
  cases e <;> rfl

variable [Transport τ]

/-- Encodes a record and sends its line, unless the line is too long. -/
def handle (o : Output τ) (clock : Instant) (x : Entry) : Except Error Delivery × Output τ :=
  if o.isClosed then (.error .closed, o)
  else
    let (outcome, registry) := o.encoder.encodeForSend o.registry x.tag x.record x.time clock
    let o := { o with registry := registry }
    match outcome with
    | .tooLarge _ _ _ => (.ok .dropped, { o with dropped := o.dropped + 1 })
    | .ready source line =>
      match Transport.send o.transport source line with
      | (.ok _, transport) =>
        (.ok .sent, { o with transport := transport, sent := o.sent + 1 })
      | (.error e, transport) =>
        (.error (handoffError source e),
          { o with transport := transport, failed := o.failed + 1 })

/-- Handles entries in order, each with the reading of the clock beside it, counting on from
    `summary`, up to the first failure. -/
def writeFrom (summary : BatchSummary) :
    List (Instant × Entry) → Output τ → Except Error BatchSummary × Output τ
  | [], o => (.ok summary, o)
  | (clock, x) :: xs, o =>
    match o.handle clock x with
    | (.ok d, o) => writeFrom (summary.add d) xs o
    | (.error e, o) => (.error e, o)

/-- Handles entries in order, the clock being read for each; the first failure ends the
    batch, and what was sent before it stays sent. -/
def writeTimed (o : Output τ) (xs : List (Instant × Entry)) :
    Except Error BatchSummary × Output τ :=
  writeFrom {} xs o

/-- Handles entries in order while the clock stands still. -/
def writeBatch (o : Output τ) (clock : Instant) (xs : List Entry) :
    Except Error BatchSummary × Output τ :=
  o.writeTimed (xs.map fun x => (clock, x))

/-- Closes the transport, once. -/
def close (o : Output τ) : Except Error Unit × Output τ :=
  if o.isClosed then (.ok (), o)
  else
    let (r, transport) := Transport.close o.transport
    (r, { o with transport := transport, isClosed := true })

/-- The diagnostic text. -/
def describe (o : Output τ) : String :=
  "DjsonOutput \x7b transport: \"" ++ Transport.name o.transport ++ "\", stats: " ++
    o.stats.describe ++ " \x7d"

end Output

end Telemetry
