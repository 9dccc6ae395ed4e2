import Mathlib.Data.List.Forall2
import Telemetry.MessagePack.Decode
import Telemetry.Proofs.Record.Fields
import Telemetry.Proofs.Text.Utf8
import Telemetry.Proofs.Value.Document

namespace Telemetry

/-!
# Two ways to decode a record

A record is decoded directly, or by way of a value that is a map.  On JSON texts both ways accept
the same texts.  On MessagePack the direct way accepts more: a name may be bytes that are UTF-8.

* `forall₂_of_accumulate` — readers that gather results one after the other, as a relation of the
  parts to their results.
* `Value.ofTree?_object`, `MessagePack.Item.toValue?_map` — a map has one entry for each member, so
  that repeated keys stay.
* `Record.ofValue_eq_ok_iff` — the maps that are records.
* `Record.ofTree?_eq_some_iff`, `MessagePack.Item.toRecord?_eq_some_iff` — the ways side by side.
* `Record.decoding` — both formats, with what becomes of repeated names.
-/

/-! ### Readers that gather -/

/-- A reader that puts the pair from each part before the pairs from the rest relates the parts to
    their pairs. -/
theorem forall₂_of_accumulate {α κ ν : Type} (key : α → Option κ) (value : α → Option ν)
    (read : List (κ × ν) → List α → Option (List (κ × ν)))
    (hnil : ∀ done, read done [] = some done.reverse)
    (hcons : ∀ done a as, read done (a :: as) =
      (key a).bind fun k => (value a).bind fun v => read ((k, v) :: done) as)
    {as : List α} {pairs : List (κ × ν)} : read [] as = some pairs ↔
      List.Forall₂ (fun a p => key a = some p.1 ∧ value a = some p.2) as pairs := by
  -- The induction is for any pairs from the parts before.
  have hdone : ∀ done, read done as = some pairs ↔ ∃ rest,
      List.Forall₂ (fun a p => key a = some p.1 ∧ value a = some p.2) as rest ∧
        pairs = done.reverse ++ rest := by
    induction as with
    | nil =>
      intro done
      rw [hnil, Option.some.injEq]
      constructor
      · rintro rfl
        exact ⟨[], .nil, (List.append_nil _).symm⟩
      · rintro ⟨rest, hrest, rfl⟩
        rw [List.forall₂_nil_left_iff.1 hrest, List.append_nil]
    | cons a as ih =>
      intro done
      rw [hcons]
      simp only [Option.bind_eq_some_iff]
      constructor
      · rintro ⟨k, hk, v, hv, hread⟩
        obtain ⟨rest, hrest, hpairs⟩ := (ih ((k, v) :: done)).1 hread
        exact ⟨(k, v) :: rest, .cons ⟨hk, hv⟩ hrest, by simpa using hpairs⟩
      · rintro ⟨rest, hrest, hpairs⟩
        obtain ⟨⟨k, v⟩, tail, ⟨hk, hv⟩, htail, rfl⟩ := List.forall₂_cons_left_iff.1 hrest
        exact ⟨k, hk, v, hv, (ih ((k, v) :: done)).2 ⟨tail, htail, by simpa using hpairs⟩⟩
  rw [hdone []]
  simp

/-- Each element of one list has a partner in the other. -/
theorem exists_of_forall₂ {α β : Type} {R : α → β → Prop} {as : List α} {bs : List β}
    (h : List.Forall₂ R as bs) {a : α} (ha : a ∈ as) : ∃ b, R a b := by
  obtain ⟨i, hi, rfl⟩ := List.getElem_of_mem ha
  exact ⟨_, h.get hi (h.length_eq ▸ hi)⟩

/-! ### Entries and fields, part by part -/

/-- Members give entries one by one, if each name and value is readable. -/
theorem Value.entriesOfTrees?_eq_some_iff {depth : Nat}
    {members : List (Option String × Json.Tree)} {entries : List (Value × Value)} :
    entriesOfTrees? depth [] members = some entries ↔
      List.Forall₂ (fun m e => m.1.map text = some e.1 ∧ ofTree? depth m.2 = some e.2)
        members entries := by
  refine forall₂_of_accumulate (fun m : Option String × Json.Tree => m.1.map text)
    (fun m => ofTree? depth m.2) (entriesOfTrees? depth)
    (fun done => by simp only [entriesOfTrees?]) fun done m ms => ?_
  obtain ⟨name, t⟩ := m
  cases name <;> cases h : ofTree? depth t <;> simp [entriesOfTrees?, h]

/-- Members give fields one by one, if each name and value is readable. -/
theorem Record.fieldsOfTrees?_eq_some_iff {depth : Nat}
    {members : List (Option String × Json.Tree)} {fields : List (String × Value)} :
    fieldsOfTrees? depth [] members = some fields ↔
      List.Forall₂ (fun m f => m.1 = some f.1 ∧ Value.ofTree? depth m.2 = some f.2)
        members fields := by
  refine forall₂_of_accumulate Prod.fst (fun m => Value.ofTree? depth m.2)
    (fieldsOfTrees? depth) (fun done => by simp only [fieldsOfTrees?]) fun done m ms => ?_
  obtain ⟨name, t⟩ := m
  cases name <;> cases h : Value.ofTree? depth t <;> simp [fieldsOfTrees?, h]

namespace MessagePack.Item

/-- Entries give entries one by one, if each key and value has a meaning. -/
theorem toEntries?_eq_some_iff {items : List (Item × Item)} {entries : List (Value × Value)} :
    toEntries? [] items = some entries ↔
      List.Forall₂ (fun i e => toValue? i.1 = some e.1 ∧ toValue? i.2 = some e.2)
        items entries := by
  refine forall₂_of_accumulate (fun i : Item × Item => toValue? i.1)
    (fun i => toValue? i.2) toEntries?
    (fun done => by simp only [toEntries?]) fun done i is => ?_
  obtain ⟨k, v⟩ := i
  cases hk : toValue? k <;> cases hv : toValue? v <;> simp [toEntries?, hk, hv]

/-- Entries give fields one by one, if each key is a text and each value has a meaning. -/
theorem toFields?_eq_some_iff {items : List (Item × Item)} {fields : List (String × Value)} :
    toFields? [] items = some fields ↔
      List.Forall₂ (fun i f => text? i.1 = some f.1 ∧ toValue? i.2 = some f.2) items fields := by
  refine forall₂_of_accumulate (fun i : Item × Item => text? i.1)
    (fun i => toValue? i.2) toFields?
    (fun done => by simp only [toFields?]) fun done i is => ?_
  obtain ⟨k, v⟩ := i
  cases hk : text? k <;> cases hv : toValue? v <;> simp [toFields?, hk, hv]

end MessagePack.Item

/-! ### Maps -/

/-- **An object becomes a map** with one entry for each member, in order. -/
theorem Value.ofTree?_object {depth : Nat} {members : List (Option String × Json.Tree)}
    {v : Value} : ofTree? depth (.object members) = some v ↔ depth ≠ 0 ∧ ∃ entries,
      List.Forall₂ (fun m e => m.1.map text = some e.1 ∧ ofTree? (depth - 1) m.2 = some e.2)
        members entries ∧ v = map entries := by
  rw [ofTree?]
  by_cases h : depth = 0
  · simp [h]
  · rw [if_neg h, Option.map_eq_some_iff]
    simp only [entriesOfTrees?_eq_some_iff, ne_eq, h, not_false_iff, true_and, @eq_comm _ v]

/-- Nothing but an object becomes a map. -/
theorem Value.exists_object_of_ofTree? {depth : Nat} {t : Json.Tree}
    {entries : List (Value × Value)} (h : ofTree? depth t = some (map entries)) :
    ∃ members, t = .object members := by
  cases t with
  | object members => exact ⟨members, rfl⟩
  | null | bool => simp [ofTree?] at h
  | text s => cases s <;> simp [ofTree?] at h
  | number n =>
    cases n with
    | none => simp [ofTree?] at h
    | some n =>
      simp only [ofTree?, Option.map_some, Option.some.injEq] at h
      cases n with
      | float => cases h
      | integer n =>
        rw [decodeNumber_eq_ofNumber, ofNumber, ofInteger] at h
        split at h <;> cases h
  | array items =>
    rw [ofTree?] at h
    split at h
    · cases h
    · obtain ⟨vs, -, hvs⟩ := Option.map_eq_some_iff.1 h
      cases hvs

namespace MessagePack.Item

/-- **A map becomes a map** with one entry for each of its entries, in order. -/
theorem toValue?_map {items : List (Item × Item)} {v : Value} :
    toValue? (.map items) = some v ↔ ∃ entries,
      List.Forall₂ (fun i e => toValue? i.1 = some e.1 ∧ toValue? i.2 = some e.2) items entries ∧
        v = .map entries := by
  simp only [toValue?, Option.map_eq_some_iff, toEntries?_eq_some_iff, @eq_comm _ v]

/-- Nothing but a map becomes a map. -/
theorem exists_map_of_toValue? {item : Item} {entries : List (Value × Value)}
    (h : item.toValue? = some (.map entries)) : ∃ items, item = .map items := by
  cases item with
  | map items => exact ⟨items, rfl⟩
  | nil | bool | signed | float | binary | extension => simp [toValue?] at h
  | unsigned n =>
    rw [toValue?, Value.ofUInt64] at h
    split at h <;> cases h
  | text bytes =>
    rw [toValue?] at h
    split at h <;> cases h
  | array items =>
    obtain ⟨vs, -, hvs⟩ := Option.map_eq_some_iff.1 h
    cases hvs

/-- A key becomes a text if it is a text that is UTF-8. -/
theorem toValue?_eq_text_iff {k : Item} {name : String} :
    k.toValue? = some (.text name) ↔ ∃ bytes, k = .text bytes ∧ Utf8.decode? bytes = some name := by
  cases k with
  | text bytes =>
    rw [toValue?]
    cases h : Utf8.decode? bytes <;> simp [h]
  | nil | bool | signed | float | binary | extension => simp [toValue?]
  | unsigned n =>
    rw [toValue?, Value.ofUInt64]
    split <;> simp
  | array items => simp [toValue?]
  | map items => simp [toValue?]

/-- A key names a field if it is a text or bytes, and UTF-8. -/
theorem text?_eq_some_iff {k : Item} {name : String} : k.text? = some name ↔
    ∃ bytes, (k = .text bytes ∨ k = .binary bytes) ∧ Utf8.decode? bytes = some name := by
  cases k <;> simp [text?]

end MessagePack.Item

/-! ### Records -/

namespace Record

open Value (entryOf)

/-- The fields of entries whose keys are texts. -/
theorem namedEntries_eq_ok_iff {entries : List (Value × Value)}
    {fields : List (String × Value)} :
    namedEntries entries = .ok fields ↔ entries = fields.map (entryOf id) := by
  induction entries generalizing fields with
  | nil =>
    rw [namedEntries, Except.ok.injEq]
    cases fields <;> simp
  | cons e entries ih =>
    obtain ⟨k, v⟩ := e
    cases k with
    | text name =>
      rw [namedEntries]
      cases fields with
      | nil => cases namedEntries entries <;> simp [Except.map]
      | cons f fields =>
        obtain ⟨other, w⟩ := f
        rw [List.map_cons, List.cons.injEq, ← ih, entryOf]
        cases namedEntries entries <;> simp [Except.map, and_assoc]
    | null | bool | int | uint | float | time | bytes | array | map =>
      cases fields <;> simp [namedEntries, entryOf]

/-- **The maps that are records** have texts as keys. -/
theorem ofValue_eq_ok_iff {v : Value} {r : Record} :
    ofValue v = .ok r ↔ ∃ fields, v = .map (fields.map (entryOf id)) ∧ r = ofFields fields := by
  cases v with
  | map entries =>
    simp only [ofValue, Value.map.injEq, ← namedEntries_eq_ok_iff]
    cases namedEntries entries <;> simp [Except.map, eq_comm]
  | null | bool | int | uint | float | time | text | bytes | array => simp [ofValue]

/-- Directly, a record comes from an object; each member gives a field. -/
theorem ofTree?_eq_some_iff {depth : Nat} {t : Json.Tree} {r : Record} :
    ofTree? depth t = some r ↔ ∃ members fields, t = .object members ∧ depth ≠ 0 ∧
      List.Forall₂ (fun m f => m.1 = some f.1 ∧ Value.ofTree? (depth - 1) m.2 = some f.2)
        members fields ∧ r = ofFields fields := by
  cases t with
  | object members =>
    rw [ofTree?]
    by_cases h : depth = 0
    · simp [h]
    · rw [if_neg h, Option.map_eq_some_iff]
      simp [fieldsOfTrees?_eq_some_iff, h, @eq_comm _ r]
  | null | bool | number | text | array => simp [ofTree?]

/-- By way of its value, a record comes from the same objects with the same fields. -/
theorem ofValue_ofTree?_iff {depth : Nat} {t : Json.Tree} {r : Record} :
    (∃ v, Value.ofTree? depth t = some v ∧ ofValue v = .ok r) ↔
      ∃ members fields, t = .object members ∧ depth ≠ 0 ∧
        List.Forall₂ (fun m f => m.1 = some f.1 ∧ Value.ofTree? (depth - 1) m.2 = some f.2)
          members fields ∧ r = ofFields fields := by
  have hkey : ∀ (m : Option String × Json.Tree) (name : String),
      m.1.map Value.text = some (.text name) ↔ m.1 = some name := by
    intro m name
    simp [Option.map_eq_some_iff]
  simp only [ofValue_eq_ok_iff]
  constructor
  · rintro ⟨v, hv, fields, rfl, rfl⟩
    obtain ⟨members, rfl⟩ := Value.exists_object_of_ofTree? hv
    obtain ⟨hdepth, entries, hentries, heq⟩ := Value.ofTree?_object.1 hv
    obtain rfl := Value.map.inj heq
    rw [List.forall₂_map_right_iff] at hentries
    simp only [entryOf, hkey] at hentries
    exact ⟨members, fields, rfl, hdepth, hentries, rfl⟩
  · rintro ⟨members, fields, rfl, hdepth, hfields, rfl⟩
    refine ⟨.map (fields.map (entryOf id)), Value.ofTree?_object.2 ⟨hdepth, _, ?_, rfl⟩, fields,
      rfl, rfl⟩
    rw [List.forall₂_map_right_iff]
    simp only [entryOf, hkey]
    exact hfields

/-- A map that comes from an object is a record, since its keys are texts. -/
theorem exists_ofValue_of_ofTree? {depth : Nat} {t : Json.Tree} {entries : List (Value × Value)}
    (h : Value.ofTree? depth t = some (.map entries)) : ∃ r, ofValue (.map entries) = .ok r := by
  obtain ⟨members, rfl⟩ := Value.exists_object_of_ofTree? h
  obtain ⟨-, entries', hentries, heq⟩ := Value.ofTree?_object.1 h
  obtain rfl := Value.map.inj heq
  have hfields : ∃ fields : List (String × Value), entries = fields.map (entryOf id) := by
    clear h heq
    induction hentries with
    | nil => exact ⟨[], rfl⟩
    | @cons m e members entries hme _ ih =>
      obtain ⟨name, -, hname⟩ := Option.map_eq_some_iff.1 hme.1
      obtain ⟨fields, rfl⟩ := ih
      refine ⟨(name, e.2) :: fields, ?_⟩
      rw [List.map_cons, entryOf, hname]
      rfl
  obtain ⟨fields, rfl⟩ := hfields
  exact ⟨ofFields fields, ofValue_eq_ok_iff.2 ⟨fields, rfl, rfl⟩⟩

end Record

namespace MessagePack.Item

open Value (entryOf)
open Record (ofValue ofFields)

/-- Directly, a record comes from a map; each entry gives a field. -/
theorem toRecord?_eq_some_iff {item : Item} {r : Record} : item.toRecord? = some r ↔
    ∃ items fields, item = .map items ∧
      List.Forall₂ (fun i f => text? i.1 = some f.1 ∧ toValue? i.2 = some f.2) items fields ∧
        r = ofFields fields := by
  cases item with
  | map items =>
    rw [toRecord?, Option.map_eq_some_iff]
    simp [toFields?_eq_some_iff, @eq_comm _ r]
  | nil | bool | unsigned | signed | float | text | binary | array | extension =>
    simp [toRecord?]

/-- By way of its value, a record comes from a map whose keys become texts. -/
theorem ofValue_toValue?_iff {item : Item} {r : Record} :
    (∃ v, item.toValue? = some v ∧ ofValue v = .ok r) ↔ ∃ items fields, item = .map items ∧
      List.Forall₂ (fun i f => toValue? i.1 = some (.text f.1) ∧ toValue? i.2 = some f.2)
        items fields ∧ r = ofFields fields := by
  simp only [Record.ofValue_eq_ok_iff]
  constructor
  · rintro ⟨v, hv, fields, rfl, rfl⟩
    obtain ⟨items, rfl⟩ := exists_map_of_toValue? hv
    obtain ⟨entries, hentries, heq⟩ := toValue?_map.1 hv
    obtain rfl := Value.map.inj heq
    rw [List.forall₂_map_right_iff] at hentries
    exact ⟨items, fields, rfl, hentries, rfl⟩
  · rintro ⟨items, fields, rfl, hfields, rfl⟩
    refine ⟨.map (fields.map (entryOf id)), toValue?_map.2 ⟨_, ?_, rfl⟩, fields, rfl, rfl⟩
    rw [List.forall₂_map_right_iff]
    exact hfields

/-- What is a record by way of its value is the same record directly. -/
theorem toRecord?_of_ofValue {item : Item} {v : Value} {r : Record} (hv : item.toValue? = some v)
    (hr : ofValue v = .ok r) : item.toRecord? = some r := by
  obtain ⟨items, fields, rfl, hfields, rfl⟩ := ofValue_toValue?_iff.1 ⟨v, hv, hr⟩
  refine toRecord?_eq_some_iff.2 ⟨items, fields, rfl, hfields.imp ?_, rfl⟩
  rintro i f ⟨hname, hvalue⟩
  obtain ⟨bytes, hbytes, hdecode⟩ := toValue?_eq_text_iff.1 hname
  exact ⟨text?_eq_some_iff.2 ⟨bytes, .inl hbytes, hdecode⟩, hvalue⟩

/-- **Names that are bytes** are all that the direct way accepts beyond the other. -/
theorem exists_ofValue_iff {items : List (Item × Item)} {r : Record}
    (h : (Item.map items).toRecord? = some r) :
    (∃ v, (Item.map items).toValue? = some v ∧ ofValue v = .ok r) ↔
      ∀ i ∈ items, ∀ bytes, i.1 ≠ .binary bytes := by
  obtain ⟨items', fields, heq, hfields, rfl⟩ := toRecord?_eq_some_iff.1 h
  obtain rfl := Item.map.inj heq
  rw [ofValue_toValue?_iff]
  constructor
  · rintro ⟨items', fields', heq', hfields', -⟩ i hi bytes hbytes
    obtain rfl := Item.map.inj heq'
    -- The key would have to be a text as well.
    obtain ⟨f, hname, -⟩ := exists_of_forall₂ hfields' hi
    rw [hbytes, toValue?] at hname
    exact absurd hname (by simp)
  · intro hnames
    have hboth := (List.forall₂_and_left _ _).2 ⟨hnames, hfields⟩
    refine ⟨items, fields, rfl, hboth.imp ?_, rfl⟩
    rintro i f ⟨hi, hname, hvalue⟩
    obtain ⟨bytes, hbytes | hbytes, hdecode⟩ := text?_eq_some_iff.1 hname
    · exact ⟨toValue?_eq_text_iff.2 ⟨bytes, hbytes, hdecode⟩, hvalue⟩
    · exact absurd hbytes (hi bytes)

end MessagePack.Item

/-! ### Both formats -/

namespace Record

open Value (entryOf)
open Json (Tree firstNamesLastValues)
open MessagePack (Item)

/-- A record of a JSON text is the record of the value of the text. -/
theorem ofJson?_eq_some_iff {s : List Char} {r : Record} :
    ofJson? s = some r ↔ ∃ v, Value.ofJson? s = some v ∧ ofValue v = .ok r := by
  unfold ofJson? Value.ofJson?
  cases Tree.ofText? s with
  | none => simp
  | some t =>
    show ofTree? Json.nestingLimit t = some r ↔
      ∃ v, Value.ofTree? Json.nestingLimit t = some v ∧ ofValue v = .ok r
    rw [ofTree?_eq_some_iff, ofValue_ofTree?_iff]

/-- A JSON text is a record if it is a map. -/
theorem exists_ofJson?_iff {s : List Char} :
    (∃ r, ofJson? s = some r) ↔ ∃ entries, Value.ofJson? s = some (.map entries) := by
  constructor
  · rintro ⟨r, hr⟩
    obtain ⟨v, hv, hvr⟩ := ofJson?_eq_some_iff.1 hr
    obtain ⟨fields, rfl, -⟩ := ofValue_eq_ok_iff.1 hvr
    exact ⟨_, hv⟩
  · rintro ⟨entries, hv⟩
    obtain ⟨t, -, ht⟩ := Option.bind_eq_some_iff.1 hv
    obtain ⟨r, hr⟩ := exists_ofValue_of_ofTree? ht
    exact ⟨r, ofJson?_eq_some_iff.2 ⟨_, hv, hr⟩⟩

/-- The fields of a JSON text are those of its members, without repeats. -/
theorem fields_ofJson? {s : List Char} {r : Record} (h : ofJson? s = some r) :
    ∃ members fields, Tree.ofText? s = some (.object members) ∧
      List.Forall₂ (fun m f => m.1 = some f.1 ∧
        Value.ofTree? (Json.nestingLimit - 1) m.2 = some f.2) members fields ∧
      r.fields = firstNamesLastValues fields := by
  obtain ⟨t, ht, hr⟩ := Option.bind_eq_some_iff.1 h
  obtain ⟨members, fields, rfl, -, hfields, rfl⟩ := ofTree?_eq_some_iff.1 hr
  exact ⟨members, fields, ht, hfields, fields_ofFields fields⟩

/-- In MessagePack a record by way of a value is the same record directly. -/
theorem ofMessagePack?_of_ofValue {bytes : List UInt8} {v : Value} {r : Record}
    (hv : Value.ofMessagePack? bytes = some v) (hr : ofValue v = .ok r) :
    ofMessagePack? bytes = some r := by
  obtain ⟨⟨item, rest⟩, hread, hitem⟩ := Option.bind_eq_some_iff.1 hv
  exact Option.bind_eq_some_iff.2 ⟨_, hread, Item.toRecord?_of_ofValue hitem hr⟩

/-- What is a record directly and not by way of its value has a name that is bytes. -/
theorem not_exists_ofValue_iff {bytes : List UInt8} {r : Record}
    (h : ofMessagePack? bytes = some r) :
    (¬ ∃ v r', Value.ofMessagePack? bytes = some v ∧ ofValue v = .ok r') ↔
      ∃ items rest, Item.read? bytes = some (.map items, rest) ∧ ∃ i ∈ items, ∃ b name,
        i.1 = .binary b ∧ Utf8.decode? b = some name := by
  obtain ⟨⟨item, rest⟩, hread, hitem⟩ := Option.bind_eq_some_iff.1 h
  -- A record by way of its value is the record that was read directly.
  have hroute : (∃ v r', Value.ofMessagePack? bytes = some v ∧ ofValue v = .ok r') ↔
      ∃ v, item.toValue? = some v ∧ ofValue v = .ok r := by
    simp only [Value.ofMessagePack?, hread, Option.bind_some]
    constructor
    · rintro ⟨v, r', hv, hr'⟩
      obtain rfl := Option.some.inj ((Item.toRecord?_of_ofValue hv hr').symm.trans hitem)
      exact ⟨v, hv, hr'⟩
    · rintro ⟨v, hv, hr⟩
      exact ⟨v, r, hv, hr⟩
  obtain ⟨items, fields, rfl, hfields, -⟩ := Item.toRecord?_eq_some_iff.1 hitem
  rw [hroute, Item.exists_ofValue_iff hitem]
  constructor
  · intro hnames
    push Not at hnames
    obtain ⟨i, hi, b, hb⟩ := hnames
    obtain ⟨f, hname, -⟩ := exists_of_forall₂ hfields hi
    rw [hb] at hname
    exact ⟨items, rest, hread, i, hi, b, f.1, hb, hname⟩
  · rintro ⟨items', rest', hread', i, hi, b, -, hb, -⟩ hnames
    rw [hread] at hread'
    obtain ⟨rfl, -⟩ : items = items' ∧ rest = rest' := by simpa using hread'
    exact hnames i hi b hb

/-- The fields of a map in MessagePack are those of its entries, without repeats. -/
theorem fields_ofMessagePack? {bytes : List UInt8} {r : Record}
    (h : ofMessagePack? bytes = some r) :
    ∃ items rest fields, Item.read? bytes = some (.map items, rest) ∧
      List.Forall₂ (fun i f => i.1.text? = some f.1 ∧ i.2.toValue? = some f.2) items fields ∧
      r.fields = firstNamesLastValues fields := by
  obtain ⟨⟨item, rest⟩, hread, hr⟩ := Option.bind_eq_some_iff.1 h
  obtain ⟨items, fields, rfl, hfields, rfl⟩ := Item.toRecord?_eq_some_iff.1 hr
  exact ⟨items, rest, fields, hread, hfields, fields_ofFields fields⟩

/-- **Decoding a record** directly, or by way of its value.

    A JSON text is a record if it is a map, and then both ways give the same record.  In
    MessagePack the direct way gives the record of the value as well; it accepts more only
    where a name is bytes, which then are UTF-8.

    Either way the fields are those of the members without repeats, each name at its first
    position with its last value.  A map inside keeps all its entries. -/
theorem decoding (s : List Char) (bytes : List UInt8) :
    -- JSON
    ((∃ r, ofJson? s = some r) ↔ ∃ entries, Value.ofJson? s = some (.map entries)) ∧
    (∀ r, ofJson? s = some r ↔ ∃ v, Value.ofJson? s = some v ∧ ofValue v = .ok r) ∧
    -- MessagePack
    (∀ v r, Value.ofMessagePack? bytes = some v → ofValue v = .ok r →
      ofMessagePack? bytes = some r) ∧
    (∀ r, ofMessagePack? bytes = some r →
      ((¬ ∃ v r', Value.ofMessagePack? bytes = some v ∧ ofValue v = .ok r') ↔
        ∃ items rest, Item.read? bytes = some (.map items, rest) ∧ ∃ i ∈ items, ∃ b name,
          i.1 = .binary b ∧ Utf8.decode? b = some name)) ∧
    -- repeated names
    (∀ r, ofJson? s = some r → ∃ members fields, Tree.ofText? s = some (.object members) ∧
      List.Forall₂ (fun m f => m.1 = some f.1 ∧
        Value.ofTree? (Json.nestingLimit - 1) m.2 = some f.2) members fields ∧
      r.fields = firstNamesLastValues fields) ∧
    (∀ r, ofMessagePack? bytes = some r → ∃ items rest fields,
      Item.read? bytes = some (.map items, rest) ∧
      List.Forall₂ (fun i f => i.1.text? = some f.1 ∧ i.2.toValue? = some f.2) items fields ∧
      r.fields = firstNamesLastValues fields) ∧
    (∀ v r, ofValue v = .ok r → ∃ fields, v = .map (fields.map (entryOf id)) ∧
      r.fields = firstNamesLastValues fields) ∧
    -- repeated keys inside
    (∀ depth members v, Value.ofTree? depth (.object members) = some v → ∃ entries,
      v = .map entries ∧ List.Forall₂ (fun m e => m.1.map Value.text = some e.1 ∧
        Value.ofTree? (depth - 1) m.2 = some e.2) members entries) ∧
    ∀ items v, (Item.map items).toValue? = some v → ∃ entries, v = .map entries ∧
      List.Forall₂ (fun i e => i.1.toValue? = some e.1 ∧ i.2.toValue? = some e.2)
        items entries := by
  refine ⟨exists_ofJson?_iff, fun _ => ofJson?_eq_some_iff, fun _ _ => ofMessagePack?_of_ofValue,
    fun _ => not_exists_ofValue_iff, fun _ => fields_ofJson?, fun _ => fields_ofMessagePack?,
    ?fields, ?trees, ?items⟩
  case fields =>
    intro v r hr
    obtain ⟨fields, rfl, rfl⟩ := ofValue_eq_ok_iff.1 hr
    exact ⟨fields, rfl, fields_ofFields fields⟩
  case trees =>
    intro depth members v hv
    obtain ⟨-, entries, hentries, rfl⟩ := Value.ofTree?_object.1 hv
    exact ⟨entries, rfl, hentries⟩
  case items =>
    intro items v hv
    obtain ⟨entries, hentries, rfl⟩ := Item.toValue?_map.1 hv
    exact ⟨entries, rfl, hentries⟩

/-- Two entries with one name, which is bytes: a record, but not by way of its value. -/
theorem decoding_bytes_twice : ∃ r,
    ofMessagePack? [0x82, 0xc4, 0x01, 0x61, 0xc0, 0xc4, 0x01, 0x61, 0xc3] = some r ∧
    r.fields = [("a", .bool true)] ∧
    ¬ ∃ v r', Value.ofMessagePack? [0x82, 0xc4, 0x01, 0x61, 0xc0, 0xc4, 0x01, 0x61, 0xc3] =
      some v ∧ ofValue v = .ok r' := by
  have hname : Utf8.decode? [0x61] = some "a" := Utf8.decode?_encode "a"
  have hread : Item.read? [0x82, 0xc4, 0x01, 0x61, 0xc0, 0xc4, 0x01, 0x61, 0xc3] =
      some (.map [(.binary [0x61], .nil), (.binary [0x61], .bool true)], []) := by cbv
  have hr : ofMessagePack? [0x82, 0xc4, 0x01, 0x61, 0xc0, 0xc4, 0x01, 0x61, 0xc3] =
      some (ofFields [("a", .null), ("a", .bool true)]) := by
    simp [ofMessagePack?, hread, Item.toRecord?, Item.toFields?, Item.text?, Item.toValue?, hname]
  obtain ⟨-, -, -, hbeyond, -⟩ :=
    decoding [] [0x82, 0xc4, 0x01, 0x61, 0xc0, 0xc4, 0x01, 0x61, 0xc3]
  exact ⟨_, hr, fields_ofFields _,
    (hbeyond _ hr).2 ⟨_, _, hread, _, List.mem_cons_self, _, "a", rfl, hname⟩⟩

end Record

end Telemetry
