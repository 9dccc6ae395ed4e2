import Telemetry.Transport
import Telemetry.Transport.Message
import Telemetry.Transport.Sink

namespace Telemetry

/-!
# Writer transport

Writes each message's frame and a line feed into a byte sink, then flushes it.

* `WriterTransport.send` — numbers, writes and flushes; a failed send has used its number.
* `WriterTransport.close` — the first close flushes the sink, later ones do nothing.
-/

/-- A transport over a sink. -/
structure WriterTransport (σ : Type) where
  sink : σ
  nextId : Nat := 1
  counted : TransportStats := {}
  isClosed : Bool := false

namespace WriterTransport

variable {σ : Type} [Sink σ]

/-- Writes bytes and flushes the sink. -/
def writeThrough (s : σ) (bytes : List UInt8) : Except String Unit × σ :=
  match Sink.write s bytes with
  | (.ok _, s) => Sink.flush s
  | (.error e, s) => (.error e, s)

/-- Delivers a line. -/
def send (t : WriterTransport σ) (source payload : String) :
    Except Error Unit × WriterTransport σ :=
  if t.isClosed then (.error .closed, t)
  else
    let m : Message := ⟨source, t.nextId, payload⟩
    let (r, sink) := writeThrough t.sink (Utf8.encode (m.frame ++ "\n"))
    let r := r.mapError (.sendFailed source)
    (r, { t with sink := sink, nextId := t.nextId + 1, counted := t.counted.track r })

/-- Closes the transport. -/
def close (t : WriterTransport σ) : Except Error Unit × WriterTransport σ :=
  if t.isClosed then (.ok (), t)
  else
    let (r, sink) := Sink.flush t.sink
    (r.mapError .io, { t with sink := sink, isClosed := true })

/-- The diagnostic text. -/
def describe (t : WriterTransport σ) : String :=
  "WriterTransport \x7b stats: " ++ t.counted.describe ++ " \x7d"

instance : Transport (WriterTransport σ) where
  send := send
  close := close
  name _ := "writer"
  stats t := t.counted

end WriterTransport

end Telemetry
