import Telemetry.Encoder.Cell
import Telemetry.Schema.Registry
import Telemetry.Source

namespace Telemetry

/-!
# Encoders

An encoder turns a record into one line: the schema id, the descriptor, and the cells.

* `EncoderSettings`, `Encoder.new` — what can be chosen; only a tag pattern can be refused.
* `Encoder.prepare` — appends the emission time as the last field.
* `Encoder.encode` — the line of a record, and the registry after it.
* `Encoder.encodeForSend` — names the source, prepares, encodes and checks the size.

A registry is not part of an encoder: several encoders may share one.
-/

/-- The receiver rejects a line of more bytes. -/
def recordSizeCeiling : Nat := 128 * 1024 - 1

/-- A size limit, kept to what the receiver accepts. -/
def clampRecordSize (n : Nat) : Nat := min n recordSizeCeiling

/-- The settings of an encoder. -/
structure EncoderSettings where
  /-- the field in which the emission time is put, if it is wanted -/
  timeField : Option String := none
  /-- the emission time is the event's own, not the clock's -/
  useSourceTime : Bool := true
  recordSizeLimit : Nat := recordSizeCeiling
  /-- maps travel as JSON text -/
  mapsAsJson : Bool := false
  tagPatterns : List String := []
deriving DecidableEq, Repr

/-- An encoder. -/
structure Encoder where
  timeField : Option String
  useSourceTime : Bool
  sizeLimit : Nat
  mapsAsJson : Bool
  patterns : TagPatterns

/-- What came of a record. -/
inductive EncodeOutcome where
  /-- the line fits and may be sent -/
  | ready (source line : String)
  /-- the line is too long and must not be sent -/
  | tooLarge (source : String) (size limit : Nat)
deriving DecidableEq, Repr

namespace Encoder

/-- The encoder with the given settings, its size limit clamped. -/
def new (s : EncoderSettings) : Except Error Encoder :=
  (TagPatterns.ofTexts s.tagPatterns).map fun patterns =>
    { timeField := s.timeField
      useSourceTime := s.useSourceTime
      sizeLimit := clampRecordSize s.recordSizeLimit
      mapsAsJson := s.mapsAsJson
      patterns := patterns }

/-- Appends the emission time as the last field, if it is wanted: the event's own time or
    the clock's.  A field of that name moves to the end. -/
def prepare (e : Encoder) (r : Record) (eventTime clock : Instant) : Record :=
  match e.timeField with
  | some name => r.pushLast name (.time (if e.useSourceTime then eventTime else clock))
  | none => r

/-- The position of the time column: the last field, if it has the chosen name and holds
    an instant. -/
def timeIndex (e : Encoder) (r : Record) : Option Nat :=
  match e.timeField, r.fields.getLast? with
  | some name, some (last, .time _) => if last == name then some (r.size - 1) else none
  | _, _ => none

/-- The characters of a line. -/
def lineChars (entry : SchemaEntry) (cells : List (List Char)) : List Char :=
  Nat.toDigits 10 entry.id ++ ',' :: (entry.descriptor.toList ++
    ',' :: '[' :: ([','].intercalate cells ++ [']']))

/-- The line of a record, and the registry in which its schema is registered. -/
def encode (e : Encoder) (g : Registry) (r : Record) : String × Registry :=
  let (entry, g) := g.schema r (e.timeIndex r)
  (String.ofList (lineChars entry (r.values.map (·.cellChars e.mapsAsJson))), g)

/-- A line that exceeds the size limit. -/
def isTooLarge (e : Encoder) (line : String) : Bool := decide (e.sizeLimit < line.utf8ByteSize)

/-- Names the source, prepares, encodes, and checks the size. -/
def encodeForSend (e : Encoder) (g : Registry) (tag : String) (r : Record)
    (eventTime clock : Instant) : EncodeOutcome × Registry :=
  let source := e.patterns.resolve tag
  let (line, g) := e.encode g (e.prepare r eventTime clock)
  if e.isTooLarge line then (.tooLarge source line.utf8ByteSize e.sizeLimit, g)
  else (.ready source line, g)

end Encoder

end Telemetry
