import Telemetry.MessagePack.Item

namespace Telemetry.MessagePack

/-!
# Where items end

Items follow each other without anything between them, so each must be read up to its own end and
not a byte further, whatever comes after it.

* `Exact` — a reader that takes a front of the bytes, and takes the same from this front in front
  of any other bytes.
* `Exact.map`, `Exact.bind`, `Exact.of_cons` — readers put together from exact ones are exact.
* `exact_readMany`, `exact_readScalar` — the parts of items.
* `exact_readItem` — items, however they nest; `Item.read?_nil` — there is none in no bytes.
-/

/-- A reader is exact if it takes a front of the bytes that decides what is read: in front of any
    other bytes it reads the same from this front and leaves those. -/
def Exact {α : Type} (read : List UInt8 → Option (α × List UInt8)) : Prop :=
  ∀ ⦃bytes a rest⦄, read bytes = some (a, rest) →
    ∃ front, bytes = front ++ rest ∧ ∀ more, read (front ++ more) = some (a, more)

/-! ### Readers put together -/

namespace Exact

variable {α β : Type} {read : List UInt8 → Option (α × List UInt8)}

theorem pure (a : α) : Exact fun bytes => some (a, bytes) := by
  intro bytes a' rest h
  obtain ⟨rfl, rfl⟩ := Prod.mk.inj (Option.some.inj h)
  exact ⟨[], rfl, fun _ => rfl⟩

theorem fail : Exact fun _ => (none : Option (α × List UInt8)) := by
  intro bytes a rest h
  cases h

/-- Readers one after the other: the second takes its front from what the first has left. -/
theorem bind (hread : Exact read) {next : α → List UInt8 → Option (β × List UInt8)}
    (hnext : ∀ a, Exact (next a)) :
    Exact fun bytes => (read bytes).bind fun r => next r.1 r.2 := by
  intro bytes b rest h
  obtain ⟨⟨a, middle⟩, ha, hb⟩ := Option.bind_eq_some_iff.1 h
  obtain ⟨front, rfl, hfront⟩ := hread ha
  obtain ⟨back, rfl, hback⟩ := hnext a hb
  refine ⟨front ++ back, by rw [List.append_assoc], fun more => ?_⟩
  show (read (front ++ back ++ more)).bind _ = _
  rw [List.append_assoc, hfront]
  exact hback more

/-- What is made of a result does not matter. -/
theorem map (hread : Exact read) (f : α → β) :
    Exact fun bytes => (read bytes).map fun r => (f r.1, r.2) := by
  intro bytes b rest h
  obtain ⟨⟨a, rest⟩, ha, hb⟩ := Option.map_eq_some_iff.1 h
  obtain ⟨rfl, rfl⟩ := Prod.mk.inj hb
  obtain ⟨front, rfl, hfront⟩ := hread ha
  refine ⟨front, rfl, fun more => ?_⟩
  show (read (front ++ more)).map _ = _
  rw [hfront]
  rfl

/-- The first byte may decide how the others are read. -/
theorem of_cons (hnil : read [] = none) (hcons : ∀ b, Exact fun bytes => read (b :: bytes)) :
    Exact read := by
  intro bytes a rest h
  cases bytes with
  | nil =>
    rw [hnil] at h
    cases h
  | cons b bytes =>
    obtain ⟨front, rfl, hfront⟩ := hcons b h
    exact ⟨b :: front, rfl, hfront⟩

end Exact

/-! ### Parts of items -/

/-- A number of bytes is read exactly. -/
theorem exact_readBytes (n : Nat) : Exact (readBytes n) := by
  intro bytes a rest h
  simp only [readBytes] at h
  split at h
  · rename_i hlength
    obtain ⟨rfl, rfl⟩ := Prod.mk.inj (Option.some.inj h)
    refine ⟨bytes.take n, (List.take_append_drop n bytes).symm, fun more => ?_⟩
    simp only [readBytes, List.take_left' hlength, List.drop_left' hlength, hlength, if_true]
  · cases h

theorem exact_readNat (n : Nat) : Exact (readNat n) := (exact_readBytes n).map bigEndian

theorem exact_readInt (n : Nat) : Exact (readInt n) :=
  (exact_readNat n).map fun m => Int.bmod m (Nat.pow 256 n)

/-- A length and as many bytes are read exactly. -/
theorem exact_readRun (n : Nat) : Exact (readRun n) := (exact_readNat n).bind exact_readBytes

section Repeated

variable {α : Type} {read : List UInt8 → Option (α × List UInt8)}

/-- As many as there should be, one after the other. -/
theorem exact_readMany (hread : Exact read) (done : List α) (n : Nat) :
    Exact (readMany read done n) := by
  induction n generalizing done with
  | zero => exact .pure done.reverse
  | succ n ih =>
    have hbind : readMany read done (n + 1) =
        fun bytes => (read bytes).bind fun r => readMany read (r.1 :: done) n r.2 := by
      funext bytes
      rw [readMany]
      cases read bytes <;> rfl
    rw [hbind]
    exact hread.bind fun a => ih (a :: done)

theorem exact_readPair (hread : Exact read) : Exact (readPair read) := by
  have hbind : readPair read = fun bytes => (read bytes).bind fun r =>
      (read r.2).map fun q => ((r.1, q.1), q.2) := by
    funext bytes
    rw [readPair]
    cases read bytes <;> rfl
  rw [hbind]
  exact hread.bind fun a => hread.map fun b => (a, b)

end Repeated

/-! ### Items -/

/-- An item without parts ends after its bytes. -/
theorem exact_readScalar (m : Marker) : Exact (readScalar m) := by
  cases m with
  | nil => exact .pure _
  | bool b => exact .pure _
  | small n => exact .pure _
  | unsigned k => exact (exact_readNat k).map fun n => Item.unsigned (UInt64.ofNat n)
  | signed k => exact (exact_readInt k).map fun n => Item.signed (Int64.ofInt n)
  | single => exact (exact_readNat 4).map fun n => Item.float (Double.ofSingle n)
  | double => exact (exact_readNat 8).map fun n => Item.float ⟨UInt64.ofNat n⟩
  | shortText n => exact (exact_readBytes n).map Item.text
  | text k => exact (exact_readRun k).map Item.text
  | binary k => exact (exact_readRun k).map Item.binary
  | shortArray n => exact .fail
  | array k => exact .fail
  | shortMap n => exact .fail
  | map k => exact .fail
  | fixedExtension n => exact .fail
  | extension k => exact .fail

/-- **An item ends where it ends,** whatever follows it and however deep it nests. -/
theorem exact_readItem (depth : Nat) : Exact (readItem depth) := by
  induction depth with
  | zero =>
    refine .of_cons (by rw [readItem]) fun b => ?_
    cases hb : Marker.ofByte? b with
    | none => simpa only [readItem, hb] using Exact.fail
    | some m => simpa only [readItem, hb] using exact_readScalar m
  | succ depth ih =>
    -- What a container holds is read by the reader of one depth less.
    have hitems (n : Nat) := (exact_readMany ih [] n).map Item.array
    have hentries (n : Nat) := (exact_readMany (exact_readPair ih) [] n).map Item.map
    have hskipped (n : Nat) := (exact_readBytes (n + 1)).map fun _ => Item.extension
    refine .of_cons (by rw [readItem]) fun b => ?_
    cases hb : Marker.ofByte? b with
    | none => simpa only [readItem, hb] using Exact.fail
    | some m =>
      cases m with
      | shortArray n => simpa only [readItem, hb] using hitems n
      | array k => simpa only [readItem, hb] using (exact_readNat k).bind hitems
      | shortMap n => simpa only [readItem, hb] using hentries n
      | map k => simpa only [readItem, hb] using (exact_readNat k).bind hentries
      | fixedExtension n => simpa only [readItem, hb] using hskipped n
      | extension k => simpa only [readItem, hb] using (exact_readNat k).bind hskipped
      | _ => simpa only [readItem, hb] using exact_readScalar _

/-- **Items are read exactly,** down to the nesting limit. -/
theorem Item.exact_read? : Exact Item.read? := exact_readItem nestingLimit

/-- There is no item in no bytes. -/
theorem Item.read?_nil : Item.read? [] = none := by
  rw [read?, readItem]

end Telemetry.MessagePack
