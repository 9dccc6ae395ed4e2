import Telemetry.MessagePack.Item
import Telemetry.Text.Utf8
import Telemetry.Record

namespace Telemetry.MessagePack.Item

/-!
# What items mean

* `toValue?` — an item as a value: a text that is not UTF-8 is taken as bytes;
  application-defined data have no value.
* `toRecord?` — a map as a record; a name may also be bytes that are UTF-8.
* `toDocument?` — an item as a document, which has no bytes.
* `Value.ofMessagePack?`, `Record.ofMessagePack?` — what stands at the front of bytes.
-/

mutual

/-- The value of an item. -/
def toValue? : Item → Option Value
  | nil => some .null
  | bool b => some (.bool b)
  | unsigned n => some (.ofUInt64 n)
  | signed n => some (.int n)
  | float x => some (.float x)
  | text bytes =>
    match Utf8.decode? bytes with
    | some s => some (.text s)
    | none => some (.bytes bytes)
  | binary bytes => some (.bytes bytes)
  | array items => (toValues? [] items).map .array
  | map entries => (toEntries? [] entries).map .map
  | extension => none

/-- The values of items, after those in `done` (last first). -/
def toValues? (done : List Value) : List Item → Option (List Value)
  | [] => some done.reverse
  | i :: is =>
    match toValue? i with
    | some v => toValues? (v :: done) is
    | none => none

/-- The values of entries, after those in `done` (last first). -/
def toEntries? (done : List (Value × Value)) :
    List (Item × Item) → Option (List (Value × Value))
  | [] => some done.reverse
  | (k, i) :: es =>
    match toValue? k, toValue? i with
    | some k, some v => toEntries? ((k, v) :: done) es
    | _, _ => none

end

/-- The text of an item that is text or bytes, if it is UTF-8. -/
def text? : Item → Option String
  | text bytes | binary bytes => Utf8.decode? bytes
  | _ => none

/-- The fields of entries, after those in `done` (last first). -/
def toFields? (done : List (String × Value)) :
    List (Item × Item) → Option (List (String × Value))
  | [] => some done.reverse
  | (k, i) :: es =>
    match text? k, toValue? i with
    | some name, some v => toFields? ((name, v) :: done) es
    | _, _ => none

/-- The record of a map. -/
def toRecord? : Item → Option Record
  | map entries => (toFields? [] entries).map Record.ofFields
  | _ => none

open Json (Document Number)

/-- The name of a member: for the first one only text will do, later ones may be bytes. -/
def memberName? (first : Bool) : Item → Option String
  | text bytes => Utf8.decode? bytes
  | binary bytes => if first then none else Utf8.decode? bytes
  | _ => none

mutual

/-- The document of an item. -/
def toDocument? : Item → Option Document
  | nil => some .null
  | bool b => some (.bool b)
  | unsigned n => some (.number (Number.ofUInt64 n))
  | signed n => some (.number (Number.ofInt64 n))
  | float x => some (Value.floatDocument x)
  | text bytes => (Utf8.decode? bytes).map .text
  | binary _ => none
  | array items => (toDocuments? [] items).map .array
  | map entries => (toMembers? [] entries).map .object
  | extension => none

/-- The documents of items, after those in `done` (last first). -/
def toDocuments? (done : List Document) : List Item → Option (List Document)
  | [] => some done.reverse
  | i :: is =>
    match toDocument? i with
    | some d => toDocuments? (d :: done) is
    | none => none

/-- The members of entries, set one after the other into `done`. -/
def toMembers? (done : List (String × Document)) :
    List (Item × Item) → Option (List (String × Document))
  | [] => some done
  | (k, i) :: es =>
    match memberName? done.isEmpty k, toDocument? i with
    | some name, some d => toMembers? (Json.put done name d) es
    | _, _ => none

end

end Telemetry.MessagePack.Item

namespace Telemetry

/-- The value at the front of bytes; what follows it is ignored. -/
def Value.ofMessagePack? (bytes : List UInt8) : Option Value :=
  (MessagePack.Item.read? bytes).bind fun (i, _) => i.toValue?

/-- The record at the front of bytes; what follows it is ignored. -/
def Record.ofMessagePack? (bytes : List UInt8) : Option Record :=
  (MessagePack.Item.read? bytes).bind fun (i, _) => i.toRecord?

end Telemetry
