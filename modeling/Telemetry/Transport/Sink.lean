import Telemetry.Text.Utf8

namespace Telemetry

/-!
# Byte sinks

* `Sink` — takes bytes, in pieces perhaps, and hands them on when flushed.
* `BoundedSink` — takes bytes up to a limit and keeps them.
-/

/-- What takes bytes.  A write that fails may have taken some of the bytes. -/
class Sink (σ : Type) where
  write : σ → List UInt8 → Except String Unit × σ
  flush : σ → Except String Unit × σ

/-- A sink that keeps its bytes, takes no more of them than a limit, and may refuse to be
    flushed. -/
structure BoundedSink where
  limit : Option Nat := none
  flushFails : Bool := false
  written : Array UInt8 := #[]

namespace BoundedSink

/-- How many more bytes the sink takes of `wanted`. -/
def room (s : BoundedSink) (wanted : Nat) : Nat :=
  match s.limit with
  | none => wanted
  | some limit => min wanted (limit - s.written.size)

/-- Takes what fits. -/
def write (s : BoundedSink) (bytes : List UInt8) : Except String Unit × BoundedSink :=
  let room := s.room bytes.length
  let s' := { s with written := s.written ++ (bytes.take room).toArray }
  (if room < bytes.length then .error "pipe closed" else .ok (), s')

/-- Hands the bytes on. -/
def flush (s : BoundedSink) : Except String Unit × BoundedSink :=
  (if s.flushFails then .error "flush failed" else .ok (), s)

/-- The bytes as text, malformed parts replaced. -/
def text (s : BoundedSink) : String := Utf8.decodeLossy s.written.toList

instance : Sink BoundedSink where
  write := write
  flush := flush

end BoundedSink

end Telemetry
