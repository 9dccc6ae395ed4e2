import Telemetry.Event.Time
import Telemetry.Event
import Telemetry.Output

namespace Telemetry

/-!
# Shipments

A shipment hands events to an output, a batch at a time.

* `batches` — a list cut into parts of one size, the last perhaps shorter.
* `Event.entry` — an event as an entry; an event without a time takes the clock's.
* `Output.shipTimed`, `Output.ship` — writes each batch, once all its events have a time, with
  the clock read for each event or standing still.

The clock is read twice for an event without a time: for the time it lacks when its batch is put
together, and for its emission when its line is encoded.  One reading stands here for both, and
nothing is lost by it, as an encoder writes only one of them (`Output.handle_two_readings`).
-/

/-- A list cut into parts of a size; zero counts as one. -/
def batches {α : Type} (size : Nat) (xs : List α) : List (List α) :=
  match xs with
  | [] => []
  | x :: rest => (x :: rest.take (size - 1)) :: batches size (rest.drop (size - 1))
termination_by xs.length
decreasing_by simp only [List.length_drop, List.length_cons]; omega

theorem batches_nil {α : Type} (size : Nat) : batches size ([] : List α) = [] := by
  rw [batches]

/-- The first part is as large as it may be, and the rest is cut alike. -/
theorem batches_cons {α : Type} (size : Nat) (x : α) (rest : List α) :
    batches size (x :: rest) =
      (x :: rest.take (size - 1)) :: batches size (rest.drop (size - 1)) := by
  rw [batches]

/-- The parts make up the list. -/
theorem flatten_batches {α : Type} (size : Nat) (xs : List α) : (batches size xs).flatten = xs := by
  fun_induction batches size xs with
  | case1 => rfl
  | case2 x rest ih => simp [ih, List.take_append_drop]

/-- Why a shipment ended early. -/
inductive ShipError where
  | time (e : Event.TimeError)
  | handoff (e : Error)
deriving DecidableEq, Repr

/-- The wording of an error. -/
def ShipError.message : ShipError → String
  | time e => e.message
  | handoff e => e.message

/-- An event as an entry. -/
def Event.entry (e : Event) (clock : Instant) : Except Event.TimeError Entry :=
  (e.instant clock).map fun t => ⟨e.tag, t, e.record⟩

/-- Events as entries, each with the reading of the clock beside it; the first time that is
    none is the error. -/
def Event.entries : List (Instant × Event) → Except Event.TimeError (List (Instant × Entry))
  | [] => .ok []
  | (clock, e) :: es =>
    match e.entry clock with
    | .error x => .error x
    | .ok x => (Event.entries es).map ((clock, x) :: ·)

namespace Output

variable {τ : Type} [Transport τ]

/-- Writes batches in order, adding to `total`. -/
def shipFrom (total : BatchSummary) :
    List (List (Instant × Event)) → Output τ → Except ShipError BatchSummary × Output τ
  | [], o => (.ok total, o)
  | b :: bs, o =>
    match Event.entries b with
    | .error e => (.error (.time e), o)
    | .ok xs =>
      match o.writeTimed xs with
      | (.ok s, o) => shipFrom ⟨total.sent + s.sent, total.dropped + s.dropped⟩ bs o
      | (.error e, o) => (.error (.handoff e), o)

/-- Hands events to the output in batches, the clock being read for each.  A batch in which an
    event has no valid time is not begun; a failed send ends the shipment. -/
def shipTimed (o : Output τ) (batchSize : Nat) (events : List (Instant × Event)) :
    Except ShipError BatchSummary × Output τ :=
  shipFrom {} (batches batchSize events) o

/-- Hands events to the output in batches while the clock stands still. -/
def ship (o : Output τ) (clock : Instant) (batchSize : Nat) (events : List Event) :
    Except ShipError BatchSummary × Output τ :=
  o.shipTimed batchSize (events.map fun e => (clock, e))

end Output

end Telemetry
