import Telemetry.Event
import Telemetry.Text.Blank

namespace Telemetry.Event

/-!
# Reading events

JSON input has one event per line; MessagePack input is one event after another.

* `splitLines` — bytes cut at line feeds.
* `readLines` — the events of all lines that are not blank.
* `readStream` — the events that follow each other in bytes.
* `ReadError` — where reading failed; then there are no events at all.
-/

/-- Why input could not be read. -/
inductive ReadError where
  /-- a line that is not UTF-8 -/
  | unreadable
  /-- the line of this number, counted from 1 -/
  | line (number : Nat)
  /-- what begins this many bytes into the input -/
  | offset (start : Nat)
deriving DecidableEq, Repr

/-- The wording of an error. -/
def ReadError.message : ReadError → String
  | unreadable => "reading input"
  | line number => "line " ++ toString number ++ ": invalid event"
  | offset start => "offset " ++ toString start ++ ": invalid event"

/-! ### Lines -/

/-- A line without the carriage return before its line feed; `current` is reversed. -/
def endLine : List UInt8 → List UInt8
  | 13 :: current => current.reverse
  | current => current.reverse

/-- The lines of bytes after those in `done` and the part of a line in `current` (both last
    first).  What follows the last line feed is a line if it is not empty. -/
def splitAfter (done : List (List UInt8)) (current : List UInt8) :
    List UInt8 → List (List UInt8)
  | [] => if current.isEmpty then done.reverse else (current.reverse :: done).reverse
  | b :: bytes =>
    if b = 10 then splitAfter (endLine current :: done) [] bytes
    else splitAfter done (b :: current) bytes

/-- The lines of bytes. -/
def splitLines (bytes : List UInt8) : List (List UInt8) := splitAfter [] [] bytes

/-- The event of a line with its number; a blank line has none. -/
def readLine (number : Nat) (bytes : List UInt8) : Except ReadError (Option Event) :=
  match Utf8.decode? bytes with
  | none => .error .unreadable
  | some s =>
    if s.toList.all Text.isBlank then .ok none
    else
      match ofJson? s.toList with
      | some e => .ok (some e)
      | none => .error (.line number)

/-- The events of lines, the first of which has the given number, after those in `done`
    (last first). -/
def readFrom (done : List Event) (number : Nat) : List (List UInt8) → Except ReadError (List Event)
  | [] => .ok done.reverse
  | l :: ls =>
    match readLine number l with
    | .ok (some e) => readFrom (e :: done) (number + 1) ls
    | .ok none => readFrom done (number + 1) ls
    | .error e => .error e

/-- The events of JSON lines. -/
def readLines (bytes : List UInt8) : Except ReadError (List Event) :=
  readFrom [] 1 (splitLines bytes)

/-! ### Streams -/

open MessagePack (Item)

/-- The events in bytes that begin at the given offset, after those in `done` (last
    first).  An event takes a byte at least, so there are no more events than bytes. -/
def readAfter (done : List Event) (start : Nat) : Nat → List UInt8 → Except ReadError (List Event)
  | _, [] => .ok done.reverse
  | 0, _ => .error (.offset start)
  | fuel + 1, bytes =>
    match Item.read? bytes with
    | none => .error (.offset start)
    | some (i, rest) =>
      match ofItem? i with
      | none => .error (.offset start)
      | some e => readAfter (e :: done) (start + (bytes.length - rest.length)) fuel rest

/-- The events of MessagePack input. -/
def readStream (bytes : List UInt8) : Except ReadError (List Event) :=
  readAfter [] 0 bytes.length bytes

end Telemetry.Event
