import Telemetry.Text.Utf8

namespace Telemetry

/-!
# Lines out of a byte stream

Bytes arrive in pieces of any size.  What follows the last line feed is held back until
its line is complete.

* `AckLines.feed` — takes in bytes and gives out the complete lines that are not empty.
* `AckLines.clear` — forgets what was held back.
-/

/-- The bytes held back. -/
structure AckLines where
  held : List UInt8 := []
deriving DecidableEq, Repr

namespace AckLines

/-- Bytes cut at line feeds: the complete lines after those in `done` (last first), and
    what follows the last line feed; `current` (reversed) is the line so far. -/
def cut (done : List (List UInt8)) (current : List UInt8) :
    List UInt8 → List (List UInt8) × List UInt8
  | [] => (done.reverse, current.reverse)
  | b :: bytes =>
    if b = 10 then cut (current.reverse :: done) [] bytes else cut done (b :: current) bytes

/-- Takes in bytes; the complete lines that are not empty come out as text. -/
def feed (b : AckLines) (bytes : List UInt8) : List String × AckLines :=
  let (lines, held) := cut [] [] (b.held ++ bytes)
  ((lines.filter (!·.isEmpty)).map Utf8.decodeLossy, ⟨held⟩)

/-- Forgets the unfinished line. -/
def clear (_ : AckLines) : AckLines := ⟨[]⟩

/-- The number of bytes held back. -/
def pending (b : AckLines) : Nat := b.held.length

end AckLines

end Telemetry
