import Telemetry.Value.Document
import Telemetry.Proofs.Json.Collapse
import Telemetry.Proofs.Json.Reading

namespace Telemetry.Value

/-!
# Ways to decode a text

A JSON text becomes a value directly, or through a document; a document becomes a value by
conversion, or by the decoder.  The document keeps a repeated name once, the direct way keeps
all of them, and this is the only difference.

* `putEntry_map` — setting a member and setting an entry are the same.
* `collapse_map` — what becomes of the entries of a map whose keys are texts.
* `decodeNumber_eq_ofNumber` — decoding a number and converting it are the same.
* `ofDocument_ofTree?` — a tree converted through a document is the collapsed value of the
  tree, on the same condition of depth.
* `ofTree?_toTree` — decoding a document converts it.
* `ofText?_eq_ofJson?_collapse` — the three ways, on every text.
-/

open Json (Document Tree)

/-! ### Members and entries -/

/-- A member as an entry with a text key. -/
def entryOf {α : Type} (f : α → Value) (m : String × α) : Value × Value := (text m.1, f m.2)

/-- Text keys are equal as texts. -/
theorem same_text (s t : String) : (text s).same (text t) = (s == t) := by
  simp only [same]

/-- Setting an entry under a text is setting a member under this name. -/
theorem putEntry_map {α : Type} (f : α → Value) (members : List (String × α)) (name : String)
    (a : α) :
    putEntry (members.map (entryOf f)) (text name) (f a) =
      (Json.put members name a).map (entryOf f) := by
  have hany : (members.map (entryOf f)).any (·.1.same (text name)) =
      members.any (·.1 == name) := by
    simp only [List.any_map, Function.comp_def, entryOf, same_text]
  unfold putEntry Json.put
  rw [hany]
  split
  · rw [List.map_map, List.map_map]
    apply List.map_congr_left
    intro m _
    simp only [Function.comp, entryOf, same_text]
    split <;> rfl
  · rw [List.map_append]
    rfl

/-- Entries may be collapsed in two parts. -/
theorem collapseEntries_append (done es fs : List (Value × Value)) :
    collapseEntries done (es ++ fs) = collapseEntries (collapseEntries done es) fs := by
  induction es generalizing done with
  | nil => rfl
  | cons e es ih =>
    obtain ⟨k, v⟩ := e
    rw [List.cons_append, collapseEntries, collapseEntries, ih]

/-- Items are collapsed one by one. -/
theorem collapseItems_eq (vs : List Value) : collapseItems vs = vs.map collapse := by
  induction vs with
  | nil => rfl
  | cons v vs ih => rw [collapseItems, ih, List.map_cons]

/-- **Repeated keys** of a map whose keys are texts: each has its first position and its last
    value, which is itself collapsed. -/
theorem collapse_map (members : List (String × Value)) :
    collapse (map (members.map (entryOf id))) =
      map ((Json.firstNamesLastValues members).map (entryOf collapse)) := by
  have hentries : ∀ done : List (String × Value),
      collapseEntries (done.map (entryOf collapse)) (members.map (entryOf id)) =
        (members.foldl (fun kept m => Json.put kept m.1 m.2) done).map (entryOf collapse) := by
    intro done
    induction members generalizing done with
    | nil => rfl
    | cons m members ih =>
      rw [List.map_cons, entryOf, collapseEntries, id, putEntry_map, ih, List.foldl_cons]
  rw [collapse, ← Json.collapse_eq]
  exact congrArg map (hentries [])

/-! ### From documents -/

theorem itemsOfDocuments_eq (done : List Value) (ds : List Document) :
    itemsOfDocuments done ds = done.reverse ++ ds.map ofDocument := by
  induction ds generalizing done with
  | nil => simp [itemsOfDocuments]
  | cons d ds ih => simp [itemsOfDocuments, ih]

theorem entriesOfDocuments_eq (done : List (Value × Value)) (ms : List (String × Document)) :
    entriesOfDocuments done ms = done.reverse ++ ms.map (entryOf ofDocument) := by
  induction ms generalizing done with
  | nil => simp [entriesOfDocuments]
  | cons m ms ih =>
    obtain ⟨name, d⟩ := m
    simp [entriesOfDocuments, ih, entryOf]

/-- The value of an array, item by item. -/
theorem ofDocument_array (ds : List Document) :
    ofDocument (.array ds) = array (ds.map ofDocument) := by
  rw [ofDocument, itemsOfDocuments_eq]
  rfl

/-- The value of an object, member by member. -/
theorem ofDocument_object (ms : List (String × Document)) :
    ofDocument (.object ms) = map (ms.map (entryOf ofDocument)) := by
  rw [ofDocument, entriesOfDocuments_eq]
  rfl

/-! ### Numbers -/

/-- **A number** becomes the same value on both ways: what fits a signed word is one, whether it
    came as a signed or as an unsigned word. -/
theorem decodeNumber_eq_ofNumber (n : Json.Number) : decodeNumber n = ofNumber n := by
  cases n with
  | float x h => rfl
  | integer n h =>
    rw [decodeNumber, ofNumber, ofInteger]
    by_cases hneg : n < 0
    · rw [if_pos hneg, if_pos (by omega), ofInt64]
    · obtain ⟨k, rfl⟩ := Int.eq_ofNat_of_zero_le (Int.not_lt.1 hneg)
      have hword : (UInt64.ofNat k).toNat = k :=
        UInt64.toNat_ofNat_of_lt' (show k < 2 ^ 64 by omega)
      rw [if_neg (by omega), Int.toNat_natCast, ofUInt64, hword]
      by_cases hsmall : k < 0x8000000000000000
      · rw [if_pos hsmall, if_pos (by omega), Int64.ofInt_eq_ofNat]
      · rw [if_neg hsmall, if_neg (by omega)]

/-! ### Through a document -/

/-- There is nothing to collapse in a number. -/
theorem collapse_ofNumber (n : Json.Number) : (ofNumber n).collapse = ofNumber n := by
  cases n with
  | float x h => rfl
  | integer n h =>
    rw [ofNumber, ofInteger]
    split <;> rfl

mutual

/-- **Through a document** a tree becomes its value, collapsed. -/
theorem ofDocument_ofTree? (depth : Nat) (t : Tree) :
    (Document.ofTree? depth t).map ofDocument = (ofTree? depth t).map collapse := by
  cases t with
  | null => rfl
  | bool b => rfl
  | number n =>
    cases n with
    | none => rfl
    | some n =>
      show some (ofNumber n) = some (decodeNumber n).collapse
      rw [decodeNumber_eq_ofNumber, collapse_ofNumber]
  | text s => cases s <;> rfl
  | array items =>
    rw [Document.ofTree?, ofTree?]
    split
    · rfl
    · have hitems := ofDocument_itemsOf? (depth - 1) items [] [] rfl
      have harray := congrArg (Option.map array) hitems
      simpa [Function.comp_def, ofDocument_array, collapse, collapseItems_eq] using harray
  | object members =>
    rw [Document.ofTree?, ofTree?]
    split
    · rfl
    · have hmembers := ofDocument_membersOf? (depth - 1) members [] [] rfl
      have hmap := congrArg (Option.map map) hmembers
      simpa [Function.comp_def, ofDocument_object, collapse] using hmap

/-- Through documents, items become their values, collapsed. -/
theorem ofDocument_itemsOf? (depth : Nat) (ts : List Tree) (ds : List Document)
    (vs : List Value) (h : ds.map ofDocument = vs.map collapse) :
    (Document.itemsOf? depth ds ts).map (List.map ofDocument) =
      (itemsOfTrees? depth vs ts).map (List.map collapse) := by
  cases ts with
  | nil => simp [Document.itemsOf?, itemsOfTrees?, h]
  | cons t ts =>
    have ht := ofDocument_ofTree? depth t
    rw [Document.itemsOf?, itemsOfTrees?]
    -- Both decoders take the item or both refuse it.
    cases hd : Document.ofTree? depth t with
    | none =>
      rw [hd, Option.map_none] at ht
      rw [Option.map_eq_none_iff.1 ht.symm]
      rfl
    | some d =>
      rw [hd, Option.map_some] at ht
      obtain ⟨v, hv, hvd⟩ := Option.map_eq_some_iff.1 ht.symm
      rw [hv]
      apply ofDocument_itemsOf?
      rw [List.map_cons, List.map_cons, hvd, h]

/-- Through documents, members become their entries, collapsed among each other. -/
theorem ofDocument_membersOf? (depth : Nat) (ts : List (Option String × Tree))
    (ms : List (String × Document)) (es : List (Value × Value))
    (h : ms.map (entryOf ofDocument) = collapseEntries [] es.reverse) :
    (Document.membersOf? depth ms ts).map (List.map (entryOf ofDocument)) =
      (entriesOfTrees? depth es ts).map (collapseEntries []) := by
  cases ts with
  | nil => simp [Document.membersOf?, entriesOfTrees?, h]
  | cons m ts =>
    obtain ⟨name, t⟩ := m
    have ht := ofDocument_ofTree? depth t
    cases name with
    | none => simp only [Document.membersOf?, entriesOfTrees?, Option.map_none]
    | some name =>
      cases hd : Document.ofTree? depth t with
      | none =>
        rw [hd, Option.map_none] at ht
        simp only [Document.membersOf?, entriesOfTrees?, hd, Option.map_eq_none_iff.1 ht.symm,
          Option.map_none]
      | some d =>
        rw [hd, Option.map_some] at ht
        obtain ⟨v, hv, hvd⟩ := Option.map_eq_some_iff.1 ht.symm
        simp only [Document.membersOf?, entriesOfTrees?, hd, hv]
        apply ofDocument_membersOf?
        -- The member is set where the collapsed entries have its name.
        rw [List.reverse_cons, collapseEntries_append, ← h, collapseEntries, collapseEntries, hvd,
          putEntry_map]

end

/-! ### Decoding a document -/

/-- Items nest within a depth if each of them does. -/
theorem itemsDepth_le {n deepest : Nat} {ds : List Document} :
    Document.itemsDepth deepest ds ≤ n ↔ deepest ≤ n ∧ ∀ d ∈ ds, d.depth ≤ n := by
  induction ds generalizing deepest with
  | nil => simp [Document.itemsDepth]
  | cons d ds ih => rw [Document.itemsDepth, ih, Nat.max_le, and_assoc, List.forall_mem_cons]

/-- Members nest within a depth if each of their values does. -/
theorem membersDepth_le {n deepest : Nat} {ms : List (String × Document)} :
    Document.membersDepth deepest ms ≤ n ↔ deepest ≤ n ∧ ∀ m ∈ ms, m.2.depth ≤ n := by
  induction ms generalizing deepest with
  | nil => simp [Document.membersDepth]
  | cons m ms ih =>
    obtain ⟨name, d⟩ := m
    rw [Document.membersDepth, ih, Nat.max_le, and_assoc, List.forall_mem_cons]

/-- The trees of members come after those before them, in order. -/
theorem memberTrees_eq (done : List (Option String × Tree)) (ms : List (String × Document)) :
    Document.memberTrees done ms = done.reverse ++ ms.map fun m => (some m.1, m.2.toTree) := by
  induction ms generalizing done with
  | nil => simp [Document.memberTrees]
  | cons m ms ih =>
    obtain ⟨name, d⟩ := m
    simp [Document.memberTrees, ih]

mutual

/-- **Decoding a document** that nests within the depth converts it. -/
theorem ofTree?_toTree (d : Document) {n : Nat} (h : d.depth ≤ n) :
    ofTree? n d.toTree = some (ofDocument d) := by
  cases d with
  | null => rfl
  | bool b => rfl
  | number n => exact congrArg some (decodeNumber_eq_ofNumber n)
  | text s => rfl
  | array items =>
    rw [Document.depth] at h
    have hdepth := (itemsDepth_le.1 (Nat.le_sub_of_add_le h)).2
    rw [Document.toTree, Document.itemTrees_eq, ofTree?, if_neg (by omega), ofDocument_array,
      List.reverse_nil, List.nil_append, itemsOfTrees?_toTree items hdepth []]
    rfl
  | object members =>
    rw [Document.depth] at h
    have hdepth := (membersDepth_le.1 (Nat.le_sub_of_add_le h)).2
    rw [Document.toTree, memberTrees_eq, ofTree?, if_neg (by omega), ofDocument_object,
      List.reverse_nil, List.nil_append, entriesOfTrees?_toTree members hdepth []]
    rfl

/-- Decoding items converts them one by one. -/
theorem itemsOfTrees?_toTree (ds : List Document) {n : Nat} (h : ∀ d ∈ ds, d.depth ≤ n)
    (done : List Value) :
    itemsOfTrees? n done (ds.map Document.toTree) = some (done.reverse ++ ds.map ofDocument) := by
  cases ds with
  | nil => simp [itemsOfTrees?]
  | cons d ds =>
    have hd := ofTree?_toTree d (h d (by simp))
    have hds := itemsOfTrees?_toTree ds (fun e he => h e (by simp [he])) (ofDocument d :: done)
    simp only [List.map_cons, itemsOfTrees?, hd, hds]
    simp

theorem entriesOfTrees?_toTree (ms : List (String × Document)) {n : Nat}
    (h : ∀ m ∈ ms, m.2.depth ≤ n) (done : List (Value × Value)) :
    entriesOfTrees? n done (ms.map fun m => (some m.1, m.2.toTree)) =
      some (done.reverse ++ ms.map (entryOf ofDocument)) := by
  cases ms with
  | nil => simp [entriesOfTrees?]
  | cons m ms =>
    obtain ⟨name, d⟩ := m
    have hd := ofTree?_toTree d (h (name, d) (by simp))
    have hms := entriesOfTrees?_toTree ms (fun m hm => h m (by simp [hm]))
      ((text name, ofDocument d) :: done)
    simp only [List.map_cons, entriesOfTrees?, hd, hms]
    simp [entryOf]

end

/-- **The three ways to decode a text** fail on the same texts, and else give the same value,
    but that the direct way keeps repeated keys: through a document, the value is the one that
    is converted from it as well as the one that is decoded from it, and in it each map has,
    at every depth, each key at its first position with its last value. -/
theorem ofText?_eq_ofJson?_collapse (s : List Char) :
    (Document.ofText? s).map ofDocument = (ofJson? s).map collapse ∧
    (Document.ofText? s).bind decodeDocument? = (ofJson? s).map collapse ∧
    ∀ members : List (String × Value), collapse (map (members.map (entryOf id))) =
      map ((Json.firstNamesLastValues members).map (entryOf collapse)) := by
  have hmap : (Document.ofText? s).map ofDocument = (ofJson? s).map collapse := by
    unfold Document.ofText? ofJson?
    cases Tree.ofText? s with
    | none => rfl
    | some t => exact ofDocument_ofTree? Json.nestingLimit t
  have hdecode : ∀ d, decodeDocument? d = some (ofDocument d) := fun d =>
    ofTree?_toTree d (Nat.le_refl _)
  refine ⟨hmap, ?_, collapse_map⟩
  rw [← hmap]
  cases Document.ofText? s with
  | none => rfl
  | some d => exact hdecode d

end Telemetry.Value
