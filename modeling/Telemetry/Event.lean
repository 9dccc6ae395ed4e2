import Telemetry.Event.Time
import Telemetry.MessagePack.Decode

namespace Telemetry

open Json (Document Tree)

/-!
# Events

An event is a tag, a record, and a time that may be missing.  It is written as an object
with members `tag`, `time` and `record`, or as the array of the three.  Members of other
names are skipped, whatever they hold.

* `Event.ofTree?` — from JSON syntax.
* `Event.ofItem?` — from a MessagePack item, where a member may also have a number.
* `Event.instant` — its time; without one it is the clock's.
-/

/-- One inbound event. -/
structure Event where
  tag : String
  /-- the time as written, unless it is missing or null -/
  time : Option Document
  record : Record

namespace Event

/-- The members of an event. -/
inductive Member where
  | tag
  | time
  | record
deriving DecidableEq, Repr

/-- The member of a name. -/
def Member.ofName? (name : String) : Option Member :=
  if name == "tag" then some .tag
  else if name == "time" then some .time
  else if name == "record" then some .record
  else none

/-- The time of an event: clock time when it has none.  A shipment takes the same reading of the
    clock for the emission of the event. -/
def instant (e : Event) (clock : Instant) : Except TimeError Instant :=
  match e.time with
  | none => .ok clock
  | some d => parseTime d

/-- A time as written, null being none. -/
def writtenTime : Document → Option Document
  | .null => none
  | d => some d

/-! ### Assembling -/

/-- What has been read of an event; no member may stand there twice. -/
structure Draft where
  tag : Option String := none
  time : Option (Option Document) := none
  record : Option Record := none

/-- Sets a member that was not set yet. -/
def setOnce {α : Type} (old new : Option α) : Option (Option α) :=
  match old, new with
  | none, some a => some (some a)
  | _, _ => none

namespace Draft

/-- Sets the tag. -/
def setTag (p : Draft) (tag : Option String) : Option Draft :=
  (setOnce p.tag tag).map fun t => { p with tag := t }

/-- Sets the time. -/
def setTime (p : Draft) (time : Option Document) : Option Draft :=
  (setOnce p.time (time.map writtenTime)).map fun t => { p with time := t }

/-- Sets the record. -/
def setRecord (p : Draft) (record : Option Record) : Option Draft :=
  (setOnce p.record record).map fun r => { p with record := r }

/-- The event, if tag and record are there. -/
def event? (p : Draft) : Option Event :=
  match p.tag, p.record with
  | some tag, some record => some ⟨tag, p.time.getD none, record⟩
  | _, _ => none

end Draft

/-! ### From JSON -/

/-- Takes in one member, whose value may nest `depth` deep. -/
def addTree (depth : Nat) (p : Draft) (m : Member) (t : Tree) : Option Draft :=
  match m with
  | .tag =>
    match t with
    | .text s => p.setTag s
    | _ => none
  | .time => p.setTime (Document.ofTree? depth t)
  | .record => p.setRecord (Record.ofTree? depth t)

/-- Takes in the members of an object. -/
def addTrees (depth : Nat) (p : Draft) : List (Option String × Tree) → Option Draft
  | [] => some p
  | (name, t) :: ts =>
    match name with
    | none => none
    | some name =>
      match Member.ofName? name with
      | none => addTrees depth p ts
      | some m =>
        match addTree depth p m t with
        | some p => addTrees depth p ts
        | none => none

/-- The event of a JSON tree. -/
def ofTree? : Tree → Option Event
  | .object members => (addTrees (Json.nestingLimit - 1) {} members).bind Draft.event?
  | .array [tag, time, record] =>
    let depth := Json.nestingLimit - 1
    ((addTree depth {} .tag tag).bind fun p =>
      (addTree depth p .time time).bind fun p => addTree depth p .record record).bind
        Draft.event?
  | _ => none

/-- The event of a JSON text. -/
def ofJson? (s : List Char) : Option Event := (Tree.ofText? s).bind ofTree?

/-! ### From MessagePack -/

open MessagePack (Item)

/-- The member that a key names, `none` for keys of other members; a key that is neither
    text nor bytes nor an unsigned number is no key. -/
def memberOfKey? : Item → Option (Option Member)
  | .text bytes | .binary bytes => some ((Utf8.decode? bytes).bind Member.ofName?)
  | .unsigned n =>
    some (if n = 0 then some .tag else if n = 1 then some .time
      else if n = 2 then some .record else none)
  | _ => none

/-- Takes in one member. -/
def addItem (p : Draft) (m : Member) (i : Item) : Option Draft :=
  match m with
  | .tag => p.setTag i.text?
  | .time => p.setTime i.toDocument?
  | .record => p.setRecord i.toRecord?

/-- Takes in the entries of a map. -/
def addItems (p : Draft) : List (Item × Item) → Option Draft
  | [] => some p
  | (k, i) :: es =>
    match memberOfKey? k with
    | none => none
    | some none => addItems p es
    | some (some m) =>
      match addItem p m i with
      | some p => addItems p es
      | none => none

/-- The event of an item. -/
def ofItem? : Item → Option Event
  | .map entries => (addItems {} entries).bind Draft.event?
  | .array [tag, time, record] =>
    ((addItem {} .tag tag).bind fun p =>
      (addItem p .time time).bind fun p => addItem p .record record).bind Draft.event?
  | _ => none

end Event

end Telemetry
