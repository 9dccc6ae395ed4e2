import Telemetry.Proofs.Value.Document

namespace Telemetry

/-!
# From values to documents and back

A document has fewer kinds than a value, and a name only once in an object.  So a document stays
what it is on the way to a value and back, and a value comes back as what its document shows.

* `Json.Document.Distinct` — each object has each name once.  So have the documents of texts
  (`Json.Document.distinct_of_ofText?`) and those of values (`Value.distinct_toDocument`).
* `Value.plain` — what a document shows of a value.
* `Value.toDocument_ofDocument`, `Value.ofDocument_toDocument` — the two ways round.
* `Value.conversions_cancel` — the two ways round, side by side.
-/

/-! ### Documents with each name once -/

namespace Json.Document

/-- No object of the document has a name twice, at any depth. -/
inductive Distinct : Document → Prop
  | null : Distinct null
  | bool (b : Bool) : Distinct (bool b)
  | number (n : Number) : Distinct (number n)
  | text (s : String) : Distinct (text s)
  | array {items : List Document} (h : ∀ d ∈ items, Distinct d) : Distinct (array items)
  | object {members : List (String × Document)} (hnames : (members.map Prod.fst).Nodup)
      (h : ∀ m ∈ members, Distinct m.2) : Distinct (object members)

mutual

/-- The decoder sets the members one after the other, so that no name occurs twice. -/
theorem distinct_of_ofTree? {depth : Nat} (t : Tree) {d : Document}
    (h : ofTree? depth t = some d) : Distinct d := by
  cases t with
  | null =>
    cases h
    exact .null
  | bool b =>
    cases h
    exact .bool b
  | number n =>
    obtain ⟨n, -, rfl⟩ := Option.map_eq_some_iff.1 h
    exact .number n
  | text s =>
    obtain ⟨s, -, rfl⟩ := Option.map_eq_some_iff.1 h
    exact .text s
  | array items =>
    rw [ofTree?] at h
    split at h
    · cases h
    · obtain ⟨ds, hds, rfl⟩ := Option.map_eq_some_iff.1 h
      exact .array (distinct_of_itemsOf? items (by simp) hds)
  | object members =>
    rw [ofTree?] at h
    split at h
    · cases h
    · obtain ⟨ms, hms, rfl⟩ := Option.map_eq_some_iff.1 h
      -- The members are set into an empty object, one after the other.
      have hnone : Distinct (object []) := .object List.nodup_nil (by simp)
      exact distinct_of_membersOf? members hnone hms

/-- Items that are read have distinct names inside. -/
theorem distinct_of_itemsOf? {depth : Nat} (ts : List Tree) {done ds : List Document}
    (hdone : ∀ d ∈ done, Distinct d) (h : itemsOf? depth done ts = some ds) :
    ∀ d ∈ ds, Distinct d := by
  cases ts with
  | nil =>
    rw [itemsOf?, Option.some.injEq] at h
    subst h
    simpa using hdone
  | cons t ts =>
    rw [itemsOf?] at h
    split at h
    · next d hd =>
      refine distinct_of_itemsOf? ts ?_ h
      exact List.forall_mem_cons.2 ⟨distinct_of_ofTree? t hd, hdone⟩
    · cases h

/-- Members that are read have distinct names, and so have their values inside. -/
theorem distinct_of_membersOf? {depth : Nat} (ts : List (Option String × Tree))
    {done ms : List (String × Document)} (hdone : Distinct (object done))
    (h : membersOf? depth done ts = some ms) : Distinct (object ms) := by
  cases ts with
  | nil =>
    rw [membersOf?, Option.some.injEq] at h
    rwa [← h]
  | cons m ts =>
    obtain ⟨name, t⟩ := m
    cases name with
    | none => simp [membersOf?] at h
    | some name =>
      cases hd : ofTree? depth t with
      | none => simp [membersOf?, hd] at h
      | some d =>
        simp only [membersOf?, hd] at h
        cases hdone with
        | object hnames hms =>
          refine distinct_of_membersOf? ts (.object (nodup_put hnames name d) ?_) h
          exact forall_mem_put hms (distinct_of_ofTree? t hd) name

end

/-- A parsed text has each name once. -/
theorem distinct_of_ofText? {s : List Char} {d : Document} (h : ofText? s = some d) :
    Distinct d := by
  obtain ⟨t, -, ht⟩ := Option.bind_eq_some_iff.1 h
  exact distinct_of_ofTree? t ht

end Json.Document

namespace Value

open Json (Document Number)

/-! ### Documents of values -/

/-- The documents of items come after those before them, in order. -/
theorem itemDocuments_eq (done : List Document) (vs : List Value) :
    itemDocuments done vs = done.reverse ++ vs.map toDocument := by
  induction vs generalizing done with
  | nil => simp [itemDocuments]
  | cons v vs ih => simp [itemDocuments, ih]

/-- The member that an entry is set as. -/
def memberOf (e : Value × Value) : String × Document := (keyText e.1, toDocument e.2)

theorem memberDocuments_eq (done : List (String × Document)) (es : List (Value × Value)) :
    memberDocuments done es =
      (es.map memberOf).foldl (fun kept m => Json.put kept m.1 m.2) done := by
  induction es generalizing done with
  | nil => rfl
  | cons e es ih =>
    obtain ⟨k, v⟩ := e
    rw [memberDocuments, ih]
    rfl

/-- The document of an array, item by item. -/
theorem toDocument_array (vs : List Value) :
    toDocument (array vs) = .array (vs.map toDocument) := by
  rw [toDocument, itemDocuments_eq]
  rfl

/-- The document of a map: names that repeat are collapsed. -/
theorem toDocument_map (es : List (Value × Value)) :
    toDocument (map es) = .object (Json.collapse (es.map memberOf)) := by
  rw [toDocument, memberDocuments_eq]
  rfl

mutual

/-- **The document of a value** has each name once. -/
theorem distinct_toDocument (v : Value) : (toDocument v).Distinct := by
  cases v with
  | null => exact .null
  | bool b => exact .bool b
  | int n => exact .number _
  | uint n => exact .number _
  | float x =>
    show (floatDocument x).Distinct
    rw [floatDocument]
    split
    · exact .number _
    · exact .null
  | time t =>
    refine .array ?_
    intro d hd
    rcases List.mem_pair.1 hd with rfl | rfl <;> exact .number _
  | text s => exact .text s
  | bytes b => exact .text _
  | array items =>
    rw [toDocument_array]
    exact .array (distinct_toDocument_items items)
  | map entries =>
    rw [toDocument_map]
    refine .object (Json.nodup_collapse _) ?_
    exact Json.forall_mem_collapse (distinct_toDocument_entries entries)

/-- The items of a document that was made have distinct names. -/
theorem distinct_toDocument_items (vs : List Value) :
    ∀ d ∈ vs.map toDocument, d.Distinct := by
  cases vs with
  | nil => simp
  | cons v vs =>
    exact List.forall_mem_cons.2 ⟨distinct_toDocument v, distinct_toDocument_items vs⟩

theorem distinct_toDocument_entries (es : List (Value × Value)) :
    ∀ m ∈ es.map memberOf, m.2.Distinct := by
  cases es with
  | nil => simp
  | cons e es =>
    exact List.forall_mem_cons.2 ⟨distinct_toDocument e.2, distinct_toDocument_entries es⟩

end

/-! ### What a document shows of a value -/

mutual

/-- The value as its document shows it: an instant as its two integers, bytes as their base64
    text, a double that is not finite as absent, an unsigned integer that fits as a signed one,
    and a map with texts as keys, each at its first position with its last value. -/
def plain : Value → Value
  | null => null
  | bool b => bool b
  | int n => int n
  | uint n => ofUInt64 n
  | float x => if x.isFinite then float x else null
  | time t => array [int t.secs, int (Int64.ofNat t.nanos)]
  | text s => text s
  | bytes b => text (Base64.encode b)
  | array items => array (plainItems items)
  | map entries => map ((Json.firstNamesLastValues (plainMembers entries)).map (entryOf id))

/-- Each item in plain form. -/
def plainItems : List Value → List Value
  | [] => []
  | v :: vs => plain v :: plainItems vs

/-- Each value in plain form, under the text of its key. -/
def plainMembers : List (Value × Value) → List (String × Value)
  | [] => []
  | (k, v) :: es => (keyText k, plain v) :: plainMembers es

end

/-! ### Numbers -/

theorem ofNumber_ofInt64 (n : Int64) : ofNumber (Number.ofInt64 n) = int n := by
  show ofInteger n.toInt = int n
  have hn := n.toInt_lt
  rw [ofInteger, if_pos (by omega), Int64.ofInt_toInt]

/-- An unsigned word comes back as the least kind that holds it. -/
theorem ofNumber_ofUInt64 (n : UInt64) : ofNumber (Number.ofUInt64 n) = ofUInt64 n := by
  show ofInteger (n.toNat : Int) = ofUInt64 n
  rw [ofInteger, ofUInt64]
  by_cases h : n.toNat < 0x8000000000000000
  · rw [if_pos (by omega), if_pos h, Int64.ofInt_eq_ofNat]
  · rw [if_neg (by omega), if_neg h, Int.toNat_natCast, UInt64.ofNat_toNat]

/-- A number comes back from its value. -/
theorem toDocument_ofNumber (n : Number) : toDocument (ofNumber n) = .number n := by
  cases n with
  | float x h =>
    show floatDocument x = .number (.float x h)
    rw [floatDocument, Number.ofDouble?, dif_pos h]
  | integer n h =>
    show toDocument (ofInteger n) = .number (.integer n h)
    rw [ofInteger]
    split
    · have hn : (Int64.ofInt n).toInt = n := Int64.toInt_ofInt_of_le (by omega) (by omega)
      show Document.number (Number.ofInt64 (Int64.ofInt n)) = .number (.integer n h)
      simp only [Number.ofInt64, hn]
    · have hn : ((UInt64.ofNat n.toNat).toNat : Int) = n := by
        rw [UInt64.toNat_ofNat_of_lt' (by rw [UInt64.size]; omega)]
        omega
      show Document.number (Number.ofUInt64 (UInt64.ofNat n.toNat)) = .number (.integer n h)
      simp only [Number.ofUInt64, hn]

/-! ### Both ways round -/

/-- **A document comes back from its value**, with its members in order. -/
theorem toDocument_ofDocument {d : Document} (h : d.Distinct) : toDocument (ofDocument d) = d := by
  induction h with
  | null => rfl
  | bool b => rfl
  | number n => exact toDocument_ofNumber n
  | text s => rfl
  | @array items _ ih =>
    rw [ofDocument_array, toDocument_array, List.map_map]
    exact congrArg _ ((List.map_congr_left ih).trans (List.map_id items))
  | @object members hnames _ ih =>
    -- The keys come back as texts; since no two are the same, nothing is collapsed.
    have hmembers : (members.map (entryOf ofDocument)).map memberOf = members := by
      rw [List.map_map]
      refine (List.map_congr_left fun m hm => ?_).trans (List.map_id members)
      show (m.1, toDocument (ofDocument m.2)) = m
      rw [ih m hm]
    rw [ofDocument_object, toDocument_map, hmembers, Json.collapse_of_nodup hnames]

mutual

/-- **A value comes back from its document** in plain form. -/
theorem ofDocument_toDocument (v : Value) : ofDocument (toDocument v) = plain v := by
  cases v with
  | null => rfl
  | bool b => rfl
  | int n => exact ofNumber_ofInt64 n
  | uint n => exact ofNumber_ofUInt64 n
  | float x =>
    show ofDocument (floatDocument x) = if x.isFinite then float x else null
    rw [floatDocument, Number.ofDouble?]
    by_cases h : x.isFinite = true
    · rw [dif_pos h, if_pos h]
      rfl
    · rw [dif_neg h, if_neg h]
      rfl
  | time t =>
    have hnanos := t.nanos_lt
    show array [ofNumber (Number.ofInt64 t.secs), ofInteger (t.nanos : Int)] =
      array [int t.secs, int (Int64.ofNat t.nanos)]
    rw [ofNumber_ofInt64, ofInteger, if_pos (by omega), Int64.ofInt_eq_ofNat]
  | text s => rfl
  | bytes b => rfl
  | array items =>
    rw [toDocument_array, ofDocument_array, List.map_map, plain]
    exact congrArg array (map_toDocument_items items)
  | map entries =>
    -- The object is collapsed before its values come back, the plain form afterwards.
    rw [toDocument_map, ofDocument_object, plain, ← map_toDocument_entries, ← Json.collapse_eq,
      Json.collapse_map, List.map_map]
    rfl

/-- Items to documents and back, one by one. -/
theorem map_toDocument_items (vs : List Value) :
    vs.map (ofDocument ∘ toDocument) = plainItems vs := by
  cases vs with
  | nil => rfl
  | cons v vs =>
    rw [List.map_cons, plainItems, map_toDocument_items vs]
    exact congrArg (· :: plainItems vs) (ofDocument_toDocument v)

theorem map_toDocument_entries (es : List (Value × Value)) :
    (es.map memberOf).map (Prod.map id ofDocument) = plainMembers es := by
  cases es with
  | nil => rfl
  | cons e es =>
    obtain ⟨k, v⟩ := e
    rw [List.map_cons, List.map_cons, plainMembers, map_toDocument_entries es,
      ← ofDocument_toDocument v]
    rfl

end

/-- **Values and documents**: the way to a value and back changes no document, and the way to a
    document and back leaves a value in plain form. -/
theorem conversions_cancel :
    (∀ d : Document, d.Distinct → toDocument (ofDocument d) = d) ∧
      ∀ v : Value, ofDocument (toDocument v) = plain v :=
  ⟨fun _ => toDocument_ofDocument, ofDocument_toDocument⟩

/-- The largest word in an object, and two keys of a map that have one text. -/
theorem conversions_cancel_word_and_keys :
    toDocument (ofDocument
        (.object [("b", .number (.ofUInt64 0xffffffffffffffff)), ("a", .null)])) =
      .object [("b", .number (.ofUInt64 0xffffffffffffffff)), ("a", .null)] ∧
    ofDocument (toDocument (map [(int 1, bytes []), (null, null), (text "1", uint 1)])) =
      map [(text "1", int 1), (text "null", null)] := by
  constructor
  · apply conversions_cancel.1
    refine .object (by decide) ?_
    simp [Document.Distinct.number, Document.Distinct.null]
  · exact (conversions_cancel.2 _).trans rfl

end Value

end Telemetry
