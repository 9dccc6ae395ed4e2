import Telemetry.Double

namespace Telemetry.MessagePack

/-!
# MessagePack items

An item is one encoded value.  Its first byte is the marker: it gives the kind, and either
the length or the size of the length that follows.

* `Item` — what an item holds; texts are still bytes, because they need not be UTF-8.
* `readItem` — the item at the front of bytes, and what follows it.
-/

/-- A decoded item. -/
inductive Item where
  | nil
  | bool (b : Bool)
  | unsigned (n : UInt64)
  | signed (n : Int64)
  | float (x : Double)
  | text (bytes : List UInt8)
  | binary (bytes : List UInt8)
  | array (items : List Item)
  | map (entries : List (Item × Item))
  /-- application-defined data, which has no meaning here -/
  | extension

instance : Inhabited Item := ⟨.nil⟩

/-- Containers that may stand inside each other; application-defined data count as one. -/
def nestingLimit : Nat := 1023

/-- The bytes at the front, and the rest, `none` when there are too few. -/
def readBytes (n : Nat) (bytes : List UInt8) : Option (List UInt8 × List UInt8) :=
  let front := bytes.take n
  if front.length = n then some (front, bytes.drop n) else none

/-- The number that bytes write, the most significant first. -/
def bigEndian (bytes : List UInt8) : Nat := bytes.foldl (fun n b => 256 * n + b.toNat) 0

/-- A number of `n` bytes at the front, and the rest. -/
def readNat (n : Nat) (bytes : List UInt8) : Option (Nat × List UInt8) :=
  (readBytes n bytes).map fun (front, rest) => (bigEndian front, rest)

/-- A number of `n` bytes in two's complement at the front, and the rest. -/
def readInt (n : Nat) (bytes : List UInt8) : Option (Int × List UInt8) :=
  (readNat n bytes).map fun (m, rest) => (Int.bmod m (Nat.pow 256 n), rest)

/-- A length of `n` bytes, and as many bytes as it says. -/
def readRun (n : Nat) (bytes : List UInt8) : Option (List UInt8 × List UInt8) :=
  (readNat n bytes).bind fun (m, rest) => readBytes m rest

/-- Reads `n` times in a row, after what is in `done` (last first). -/
def readMany {α : Type} (read : List UInt8 → Option (α × List UInt8)) (done : List α) :
    Nat → List UInt8 → Option (List α × List UInt8)
  | 0, bytes => some (done.reverse, bytes)
  | n + 1, bytes =>
    match read bytes with
    | some (a, rest) => readMany read (a :: done) n rest
    | none => none

/-- Reads twice in a row. -/
def readPair {α : Type} (read : List UInt8 → Option (α × List UInt8)) (bytes : List UInt8) :
    Option ((α × α) × List UInt8) :=
  match read bytes with
  | none => none
  | some (a, rest) => (read rest).map fun (b, rest) => ((a, b), rest)

/-- The kind and, for what has a length, where the length comes from: the marker, or a
    number of bytes after it. -/
inductive Marker where
  | nil
  | bool (b : Bool)
  | small (n : Int)
  | unsigned (bytes : Nat)
  | signed (bytes : Nat)
  | single
  | double
  | shortText (length : Nat)
  | text (bytes : Nat)
  | binary (bytes : Nat)
  | shortArray (length : Nat)
  | array (bytes : Nat)
  | shortMap (length : Nat)
  | map (bytes : Nat)
  | fixedExtension (length : Nat)
  | extension (bytes : Nat)
deriving DecidableEq, Repr

/-- The marker of a byte; one byte is none. -/
def Marker.ofByte? (b : UInt8) : Option Marker :=
  let n := b.toNat
  if n < 0x80 then some (.small n)
  else if n < 0x90 then some (.shortMap (n - 0x80))
  else if n < 0xA0 then some (.shortArray (n - 0x90))
  else if n < 0xC0 then some (.shortText (n - 0xA0))
  else if 0xE0 ≤ n then some (.small ((n : Int) - 256))
  else
    match n with
    | 0xC0 => some .nil
    | 0xC2 => some (.bool false)
    | 0xC3 => some (.bool true)
    | 0xC4 => some (.binary 1)
    | 0xC5 => some (.binary 2)
    | 0xC6 => some (.binary 4)
    | 0xC7 => some (.extension 1)
    | 0xC8 => some (.extension 2)
    | 0xC9 => some (.extension 4)
    | 0xCA => some .single
    | 0xCB => some .double
    | 0xCC => some (.unsigned 1)
    | 0xCD => some (.unsigned 2)
    | 0xCE => some (.unsigned 4)
    | 0xCF => some (.unsigned 8)
    | 0xD0 => some (.signed 1)
    | 0xD1 => some (.signed 2)
    | 0xD2 => some (.signed 4)
    | 0xD3 => some (.signed 8)
    | 0xD4 => some (.fixedExtension 1)
    | 0xD5 => some (.fixedExtension 2)
    | 0xD6 => some (.fixedExtension 4)
    | 0xD7 => some (.fixedExtension 8)
    | 0xD8 => some (.fixedExtension 16)
    | 0xD9 => some (.text 1)
    | 0xDA => some (.text 2)
    | 0xDB => some (.text 4)
    | 0xDC => some (.array 2)
    | 0xDD => some (.array 4)
    | 0xDE => some (.map 2)
    | 0xDF => some (.map 4)
    | _ => none

/-- An item without parts, after its marker. -/
def readScalar (m : Marker) (bytes : List UInt8) : Option (Item × List UInt8) :=
  match m with
  | .nil => some (.nil, bytes)
  | .bool b => some (.bool b, bytes)
  | .small n =>
    some (if 0 ≤ n then .unsigned (UInt64.ofNat n.toNat) else .signed (Int64.ofInt n), bytes)
  | .unsigned k => (readNat k bytes).map fun (n, rest) => (.unsigned (UInt64.ofNat n), rest)
  | .signed k => (readInt k bytes).map fun (n, rest) => (.signed (Int64.ofInt n), rest)
  | .single => (readNat 4 bytes).map fun (n, rest) => (.float (Double.ofSingle n), rest)
  | .double => (readNat 8 bytes).map fun (n, rest) => (.float ⟨UInt64.ofNat n⟩, rest)
  | .shortText n => (readBytes n bytes).map fun (b, rest) => (.text b, rest)
  | .text k => (readRun k bytes).map fun (b, rest) => (.text b, rest)
  | .binary k => (readRun k bytes).map fun (b, rest) => (.binary b, rest)
  | _ => none

/-- The item at the front of the bytes, with at most `depth` containers inside each other,
    and what follows it. -/
def readItem : Nat → List UInt8 → Option (Item × List UInt8)
  | _, [] => none
  | 0, b :: bytes =>
    match Marker.ofByte? b with
    | some m => readScalar m bytes
    | none => none
  | depth + 1, b :: bytes =>
    let items (n : Nat) (bytes : List UInt8) : Option (Item × List UInt8) :=
      (readMany (readItem depth) [] n bytes).map fun (is, rest) => (.array is, rest)
    let entries (n : Nat) (bytes : List UInt8) : Option (Item × List UInt8) :=
      (readMany (readPair (readItem depth)) [] n bytes).map fun (es, rest) => (.map es, rest)
    let skipped (n : Nat) (bytes : List UInt8) : Option (Item × List UInt8) :=
      (readBytes (n + 1) bytes).map fun (_, rest) => (.extension, rest)
    match Marker.ofByte? b with
    | none => none
    | some (.shortArray n) => items n bytes
    | some (.array k) => (readNat k bytes).bind fun (n, rest) => items n rest
    | some (.shortMap n) => entries n bytes
    | some (.map k) => (readNat k bytes).bind fun (n, rest) => entries n rest
    | some (.fixedExtension n) => skipped n bytes
    | some (.extension k) => (readNat k bytes).bind fun (n, rest) => skipped n rest
    | some m => readScalar m bytes

/-- The item at the front of the bytes, and what follows it. -/
def Item.read? (bytes : List UInt8) : Option (Item × List UInt8) := readItem nestingLimit bytes

end Telemetry.MessagePack
