import Telemetry.Transport
import Telemetry.Transport.Message

namespace Telemetry

/-!
# Memory transport

Keeps every message, numbered from 1, and can be told to fail.

* `MemoryTransport.send` — keeps a message, unless closed or told to fail.
-/

/-- A transport that keeps its messages. -/
structure MemoryTransport where
  /-- the messages delivered, latest first -/
  latest : List Message := []
  nextId : Nat := 1
  counted : TransportStats := {}
  fails : Bool := false
  isClosed : Bool := false

namespace MemoryTransport

/-- The messages delivered, in order. -/
def messages (t : MemoryTransport) : List Message := t.latest.reverse

/-- Tells later sends to fail or to succeed. -/
def setFail (t : MemoryTransport) (fails : Bool) : MemoryTransport := { t with fails := fails }

/-- Delivers a line.  Only a delivered message takes a number. -/
def send (t : MemoryTransport) (source payload : String) :
    Except Error Unit × MemoryTransport :=
  if t.isClosed then (.error .closed, t)
  else if t.fails then
    (.error (.sendFailed source "memory transport set to fail"),
      { t with counted := t.counted.countFailed })
  else
    (.ok (), { t with
      latest := ⟨source, t.nextId, payload⟩ :: t.latest
      nextId := t.nextId + 1
      counted := t.counted.countSent })

/-- Closes the transport. -/
def close (t : MemoryTransport) : Except Error Unit × MemoryTransport :=
  (.ok (), { t with isClosed := true })

instance : Transport MemoryTransport where
  send := send
  close := close
  name _ := "memory"
  stats t := t.counted

end MemoryTransport

end Telemetry
