import Telemetry.Instant.Rfc3339
import Telemetry.Json.Document

namespace Telemetry.Event

open Json (Document Number)

/-!
# Event times

The time of an event is a number of seconds, an RFC 3339 text, or the array of seconds and
nanoseconds.

* `TimeError` — why something is no time; `TimeError.message` — its wording.
* `parseTime` — the instant of a document.
-/

/-- Why a document is no time. -/
inductive TimeError where
  | notADate (text : String)
  | secondsNotInteger
  | nanosNotWord
  | arrayShape
  | unsupported (text : String)
deriving DecidableEq, Repr

/-- The wording of an error. -/
def TimeError.message : TimeError → String
  | notADate text => "time '" ++ text ++ "' is not RFC 3339"
  | secondsNotInteger => "time seconds must be an integer"
  | nanosNotWord => "time nanoseconds must be a u32"
  | arrayShape => "time array must be [secs, nanos]"
  | unsupported text => "unsupported time value " ++ text

/-- The number as seconds: a signed word exactly, any other number as a double. -/
def timeOfNumber : Number → Instant
  | .integer n _ =>
    if n < 0x8000000000000000 then Instant.ofSecs (Int64.ofInt n)
    else Instant.ofDouble (Double.ofNat n.toNat)
  | .float x _ => Instant.ofDouble x

/-- The seconds of a two-element array. -/
def seconds? : Document → Option Int64
  | .number (.integer n _) => if n < 0x8000000000000000 then some (Int64.ofInt n) else none
  | _ => none

/-- The nanoseconds of a two-element array. -/
def nanos? : Document → Option Nat
  | .number (.integer n _) => if 0 ≤ n ∧ n < 0x100000000 then some n.toNat else none
  | _ => none

/-- The instant of a document. -/
def parseTime : Document → Except TimeError Instant
  | .number n => .ok (timeOfNumber n)
  | .text s =>
    match Rfc3339.instant? s.toList with
    | some t => .ok t
    | none => .error (.notADate s)
  | .array [secs, nanos] =>
    match seconds? secs with
    | none => .error .secondsNotInteger
    | some s =>
      match nanos? nanos with
      | none => .error .nanosNotWord
      | some n => .ok (Instant.new s n)
  | .array _ => .error .arrayShape
  | d => .error (.unsupported d.toText)

end Telemetry.Event
