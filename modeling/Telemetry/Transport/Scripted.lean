import Telemetry.Transport

namespace Telemetry

/-!
# Scripted transport

Answers sends from a list, for rehearsing how an output deals with failures.

* `ScriptedTransport.send` — the next answer of the list; success when the list is empty.
-/

/-- A transport that answers from a list. -/
structure ScriptedTransport where
  answers : List (Except Error Unit)
  /-- closing fails -/
  closeFails : Bool := false
  attempts : Nat := 0

namespace ScriptedTransport

/-- Answers a send. -/
def send (t : ScriptedTransport) (_source _payload : String) :
    Except Error Unit × ScriptedTransport :=
  (t.answers.headD (.ok ()),
    { t with answers := t.answers.tail, attempts := t.attempts + 1 })

/-- Answers a close. -/
def close (t : ScriptedTransport) : Except Error Unit × ScriptedTransport :=
  (if t.closeFails then .error (.config "close refused") else .ok (), t)

instance : Transport ScriptedTransport where
  send := send
  close := close
  name _ := "script"
  stats t := { sent := t.attempts }

end ScriptedTransport

end Telemetry
