import Telemetry.Value.Text
import Telemetry.Json.Document

namespace Telemetry.Value

open Json (Document Tree Number)

/-!
# Values and JSON

* `toDocument` — a value as a document: an instant is its two integers, bytes are base64,
  a non-finite double is null, a key that is no text is its stringified form.
* `ofDocument` — a document as a value.
* `ofTree?`, `ofJson?` — a text decoded directly: repeated names stay in the map, and an
  integer comes as a signed or an unsigned word.
* `decodeDocument?` — a document decoded the same way.
* `collapse` — the entries of every map, at every depth, with repeated keys collapsed.
-/

/-! ### To documents -/

/-- The name under which a map entry goes into an object. -/
def keyText : Value → String
  | text s => s
  | k => k.display

/-- A double as a document. -/
def floatDocument (x : Double) : Document :=
  match Number.ofDouble? x with
  | some n => .number n
  | none => .null

/-- An instant as the array of its seconds and nanoseconds. -/
def timeDocument (t : Instant) : Document :=
  .array [.number (Number.ofInt64 t.secs),
    .number (.integer t.nanos (by have := t.nanos_lt; omega))]

mutual

/-- A value as a document. -/
def toDocument : Value → Document
  | null => .null
  | bool b => .bool b
  | int n => .number (Number.ofInt64 n)
  | uint n => .number (Number.ofUInt64 n)
  | float x => floatDocument x
  | time t => timeDocument t
  | text s => .text s
  | bytes b => .text (Base64.encode b)
  | array items => .array (itemDocuments [] items)
  | map entries => .object (memberDocuments [] entries)

/-- Items as documents, after those in `done` (last first). -/
def itemDocuments (done : List Document) : List Value → List Document
  | [] => done.reverse
  | v :: vs => itemDocuments (toDocument v :: done) vs

/-- Entries set as members into `done`, one after the other. -/
def memberDocuments (done : List (String × Document)) :
    List (Value × Value) → List (String × Document)
  | [] => done
  | (k, v) :: es => memberDocuments (Json.put done (keyText k) (toDocument v)) es

end

/-! ### From documents -/

/-- The integer as a value: signed if it fits, else unsigned. -/
def ofInteger (n : Int) : Value :=
  if n < 0x8000000000000000 then int (Int64.ofInt n) else uint (UInt64.ofNat n.toNat)

/-- A number as a value. -/
def ofNumber : Number → Value
  | .integer n _ => ofInteger n
  | .float x _ => float x

mutual

/-- A document as a value. -/
def ofDocument : Document → Value
  | .null => null
  | .bool b => bool b
  | .number n => ofNumber n
  | .text s => text s
  | .array items => array (itemsOfDocuments [] items)
  | .object members => map (entriesOfDocuments [] members)

/-- Items as values, after those in `done` (last first). -/
def itemsOfDocuments (done : List Value) : List Document → List Value
  | [] => done.reverse
  | d :: ds => itemsOfDocuments (ofDocument d :: done) ds

/-- Members as entries, after those in `done` (last first). -/
def entriesOfDocuments (done : List (Value × Value)) :
    List (String × Document) → List (Value × Value)
  | [] => done.reverse
  | (name, d) :: ds => entriesOfDocuments ((text name, ofDocument d) :: done) ds

end

/-! ### Directly from syntax -/

/-- The value of a number in a text: a negative integer comes as a signed word, any other one
    as an unsigned word. -/
def decodeNumber : Number → Value
  | .integer n _ =>
    if n < 0 then ofInt64 (Int64.ofInt n) else ofUInt64 (UInt64.ofNat n.toNat)
  | .float x _ => float x

mutual

/-- The value of a tree with at most `depth` containers inside each other. -/
def ofTree? (depth : Nat) : Tree → Option Value
  | .null => some null
  | .bool b => some (bool b)
  | .number n => n.map decodeNumber
  | .text s => s.map text
  | .array items =>
    if depth = 0 then none else (itemsOfTrees? (depth - 1) [] items).map array
  | .object members =>
    if depth = 0 then none else (entriesOfTrees? (depth - 1) [] members).map map

/-- The values of the items after those in `done` (last first). -/
def itemsOfTrees? (depth : Nat) (done : List Value) : List Tree → Option (List Value)
  | [] => some done.reverse
  | t :: ts =>
    match ofTree? depth t with
    | some v => itemsOfTrees? depth (v :: done) ts
    | none => none

/-- The entries of the members after those in `done` (last first). -/
def entriesOfTrees? (depth : Nat) (done : List (Value × Value)) :
    List (Option String × Tree) → Option (List (Value × Value))
  | [] => some done.reverse
  | (name, t) :: ts =>
    match name, ofTree? depth t with
    | some name, some v => entriesOfTrees? depth ((text name, v) :: done) ts
    | _, _ => none

end

/-- The value of a JSON text. -/
def ofJson? (s : List Char) : Option Value :=
  (Tree.ofText? s).bind (ofTree? Json.nestingLimit)

/-- The value decoded from a document as from a text, of whatever depth. -/
def decodeDocument? (d : Document) : Option Value := ofTree? d.depth d.toTree

/-! ### Collapsed maps -/

/-- Sets the entry of a text key: in place when the key is present, else last.  Keys of
    other kinds do not occur in decoded JSON and are kept apart. -/
def putEntry (entries : List (Value × Value)) (key value : Value) : List (Value × Value) :=
  if entries.any (·.1.same key) then
    entries.map fun e => if e.1.same key then (key, value) else e
  else entries ++ [(key, value)]

mutual

/-- Repeated keys of every map collapsed to their first position and last value. -/
def collapse : Value → Value
  | array items => array (collapseItems items)
  | map entries => map (collapseEntries [] entries)
  | v => v

/-- The items, each collapsed. -/
def collapseItems : List Value → List Value
  | [] => []
  | v :: vs => collapse v :: collapseItems vs

/-- The entries, each collapsed, set one after the other into `done`. -/
def collapseEntries (done : List (Value × Value)) : List (Value × Value) → List (Value × Value)
  | [] => done
  | (k, v) :: es => collapseEntries (putEntry done k (collapse v)) es

end

end Telemetry.Value
