import Telemetry.Proofs.Value.Conversion

namespace Telemetry

/-!
# Compact text read back

The compact text of a document is read as this document, as long as the numbers in it are
integers and it nests no deeper than the reader does.  Doubles are left out: the reader
scales by a rounded power of ten, so that the last bits of a double can change.

* `Json.Document.Integral`, `Value.Floatless` — documents and values without doubles; the one
  comes from the other (`Value.Floatless.integral`).
* `Json.Document.Integral.spells` — the compact text spells the tree of the document.
* `Json.Document.Distinct.ofTree?_toTree` — the tree becomes the document again exactly if that
  nests within the depth.
* `Value.Floatless.ofText?_toText` — the document of a value, read back from its text.
-/

namespace Json.Document

open Value (memberTrees_eq itemsDepth_le membersDepth_le)

/-! ### The text -/

/-- No number of the document is a double, at any depth. -/
inductive Integral : Document → Prop
  | null : Integral null
  | bool (b : Bool) : Integral (bool b)
  | integer (n : Int) (fits : -0x8000000000000000 ≤ n ∧ n < 0x10000000000000000) :
      Integral (number (.integer n fits))
  | text (s : String) : Integral (text s)
  | array {items : List Document} (h : ∀ d ∈ items, Integral d) : Integral (array items)
  | object {members : List (String × Document)} (h : ∀ m ∈ members, Integral m.2) :
      Integral (object members)

/-- Items have commas between them. -/
theorem itemsChars_eq (ds : List Document) :
    itemsChars ds = [','].intercalate (ds.map chars) := by
  induction ds with
  | nil => rfl
  | cons d ds ih =>
    cases ds with
    | nil => simp [itemsChars]
    | cons e ds =>
      rw [itemsChars, ih]
      · simp [List.intercalate_cons_cons]
      · simp

theorem membersChars_eq (ms : List (String × Document)) :
    membersChars ms =
      [','].intercalate (ms.map fun m => quoteChars m.1.toList ++ ':' :: chars m.2) := by
  induction ms with
  | nil => rfl
  | cons m ms ih =>
    cases ms with
    | nil => simp [membersChars]
    | cons p ms =>
      rw [membersChars, ih]
      · simp [List.intercalate_cons_cons]
      · simp

/-- **The compact text spells the tree**, names and texts of any characters included. -/
theorem Integral.spells {d : Document} (h : Integral d) : Spells d.chars d.toTree := by
  induction h with
  | null => exact (reads_null 0).1
  | bool b =>
    cases b with
    | true => exact (reads_bool 0 true).1
    | false => exact (reads_bool 0 false).1
  | integer n fits => exact (reads_int 0 fits).1
  | text s => exact (reads_text 0 s).1
  | @array items _ ih =>
    rw [chars, itemsChars_eq, toTree, itemTrees_eq]
    exact Spells.array ih
  | @object members _ ih =>
    rw [chars, membersChars_eq, toTree, memberTrees_eq]
    exact Spells.object ih

/-! ### The depth -/

/-- An array nests one deeper than its items. -/
theorem depth_array_le {n : Nat} {items : List Document} :
    (array items).depth ≤ n ↔ n ≠ 0 ∧ ∀ d ∈ items, d.depth ≤ n - 1 := by
  have hle : itemsDepth 0 items ≤ n - 1 ↔ ∀ d ∈ items, d.depth ≤ n - 1 := by
    simp [itemsDepth_le]
  rw [depth, ← hle]
  omega

theorem depth_object_le {n : Nat} {members : List (String × Document)} :
    (object members).depth ≤ n ↔ n ≠ 0 ∧ ∀ m ∈ members, m.2.depth ≤ n - 1 := by
  have hle : membersDepth 0 members ≤ n - 1 ↔ ∀ m ∈ members, m.2.depth ≤ n - 1 := by
    rw [membersDepth_le, and_iff_right (Nat.zero_le _)]
  rw [depth, ← hle]
  omega

/-- Items are read if each of them can be. -/
theorem itemsOf?_toTree_of_depth {n : Nat} {ds : List Document}
    (h : ∀ d ∈ ds, ofTree? n d.toTree = if d.depth ≤ n then some d else none)
    (done : List Document) :
    itemsOf? n done (ds.map toTree) =
      if ∀ d ∈ ds, d.depth ≤ n then some (done.reverse ++ ds) else none := by
  induction ds generalizing done with
  | nil => simp [itemsOf?]
  | cons d ds ih =>
    have htail := ih (fun e he => h e (by simp [he])) (d :: done)
    rw [List.map_cons, itemsOf?, h d (by simp)]
    by_cases hd : d.depth ≤ n
    · rw [if_pos hd]
      show itemsOf? n (d :: done) (ds.map toTree) = _
      rw [htail]
      simp [hd]
    · simp [hd]

/-- The members are set one after the other; each goes last, since no name comes twice. -/
theorem membersOf?_toTree_of_depth {n : Nat} {ms : List (String × Document)}
    (h : ∀ m ∈ ms, ofTree? n m.2.toTree = if m.2.depth ≤ n then some m.2 else none)
    (done : List (String × Document)) (hnames : ((done ++ ms).map Prod.fst).Nodup) :
    membersOf? n done (ms.map fun m => (some m.1, m.2.toTree)) =
      if ∀ m ∈ ms, m.2.depth ≤ n then some (done ++ ms) else none := by
  induction ms generalizing done with
  | nil => simp [membersOf?]
  | cons m ms ih =>
    -- The name is not among those before it, so the member goes last.
    have hnew : m.1 ∉ done.map Prod.fst := by
      rw [List.map_append, List.nodup_append] at hnames
      exact fun hm => hnames.2.2 m.1 hm m.1 (by simp) rfl
    have htail := ih (fun p hp => h p (by simp [hp])) (done ++ [m])
      (by rwa [List.append_assoc, List.singleton_append])
    have hm := h m (by simp)
    obtain ⟨name, d⟩ := m
    rw [List.map_cons]
    by_cases hd : d.depth ≤ n
    · rw [if_pos hd] at hm
      simp only [membersOf?, hm, put_of_notMem hnew]
      rw [htail]
      simp only [List.forall_mem_cons, hd, true_and, List.append_assoc, List.singleton_append]
    · rw [if_neg hd] at hm
      simp only [membersOf?, hm]
      simp [hd]

/-- **The tree becomes the document again** exactly if that nests within the depth. -/
theorem Distinct.ofTree?_toTree {d : Document} (h : Distinct d) (n : Nat) :
    ofTree? n d.toTree = if d.depth ≤ n then some d else none := by
  induction h generalizing n with
  | null | bool | number | text => simp [toTree, ofTree?, depth]
  | @array items _ ih =>
    have hitems := itemsOf?_toTree_of_depth (fun d hd => ih d hd (n - 1)) []
    simp only [toTree, itemTrees_eq, ofTree?, depth_array_le, List.reverse_nil, List.nil_append,
      hitems]
    by_cases hn : n = 0
    · simp [hn]
    · simp only [hn, ne_eq, not_false_eq_true, true_and, if_false, apply_ite (Option.map _),
        Option.map_some, Option.map_none]
  | @object members hnames _ ih =>
    have hmembers := membersOf?_toTree_of_depth (fun m hm => ih m hm (n - 1)) [] hnames
    simp only [toTree, memberTrees_eq, ofTree?, depth_object_le, List.reverse_nil, List.nil_append,
      hmembers]
    by_cases hn : n = 0
    · simp [hn]
    · simp only [hn, ne_eq, not_false_eq_true, true_and, if_false, apply_ite (Option.map _),
        Option.map_some, Option.map_none]

end Json.Document

namespace Value

open Json (Document)

/-! ### Values without doubles -/

/-- No double stands in the value, at any depth.  The keys of a map may be of any kind, since
    each becomes a text. -/
inductive Floatless : Value → Prop
  | null : Floatless null
  | bool (b : Bool) : Floatless (bool b)
  | int (n : Int64) : Floatless (int n)
  | uint (n : UInt64) : Floatless (uint n)
  | time (t : Instant) : Floatless (time t)
  | text (s : String) : Floatless (text s)
  | bytes (b : List UInt8) : Floatless (bytes b)
  | array {items : List Value} (h : ∀ v ∈ items, Floatless v) : Floatless (array items)
  | map {entries : List (Value × Value)} (h : ∀ e ∈ entries, Floatless e.2) :
      Floatless (map entries)

/-- The document of such a value has integers as its numbers. -/
theorem Floatless.integral {v : Value} (h : Floatless v) : v.toDocument.Integral := by
  induction h with
  | null => exact .null
  | bool b => exact .bool b
  | int n => exact .integer _ _
  | uint n => exact .integer _ _
  | time t =>
    refine .array ?_
    intro d hd
    rcases List.mem_pair.1 hd with rfl | rfl <;> exact .integer _ _
  | text s => exact .text s
  | bytes b => exact .text _
  | @array items _ ih =>
    rw [toDocument_array]
    exact .array (List.forall_mem_map.2 ih)
  | @map entries _ ih =>
    rw [toDocument_map]
    refine .object (Json.forall_mem_collapse ?_)
    exact List.forall_mem_map.2 ih

/-- **The document of a value is read back** from its compact text, unless it nests too deep. -/
theorem Floatless.ofText?_toText {v : Value} (h : Floatless v) :
    Document.ofText? v.toDocument.toText.toList =
      if v.toDocument.depth ≤ Json.nestingLimit then some v.toDocument else none := by
  rw [Document.toText, String.toList_ofList, Document.ofText?, h.integral.spells.ofText?,
    Option.bind_some, (distinct_toDocument v).ofTree?_toTree]

end Value

end Telemetry
