import Mathlib.Tactic.TFAE
import Telemetry.Proofs.Text.Delimited
import Telemetry.Schema.Registry

namespace Telemetry

/-!
# Shapes

The shape of a record is all that its schema depends on: the field names in order, each
with the wire type of its value.

* `Record.shape` — the shape.
* `Signature.of_eq_iff`, `Descriptor.text_eq_iff` — signature and descriptor each determine
  the shape and the position of the time column.
* `tfae_signature_descriptor_shape` — so the three tell the same records apart.

Both texts are read from the front.  A name is quoted and ends by itself, whatever it
contains; a number ends at a comma or a bracket; no type name begins another one.
-/

open Text (StartsIn Delimited startsIn_cons)

/-! ### The shape of a record -/

namespace Record

/-- The field names in order, each with the type under which its value travels. -/
def shape (r : Record) : List (String × WireType) := r.fields.map fun f => (f.1, WireType.of f.2)

theorem map_fst_shape (r : Record) : r.shape.map Prod.fst = r.names := by
  simp [shape, names]

theorem map_snd_shape (r : Record) : r.shape.map Prod.snd = r.values.map WireType.of := by
  simp [shape, values]

/-- Equal shapes are equal names and equal types, position by position. -/
theorem shape_eq_iff {r s : Record} :
    r.shape = s.shape ↔
      r.names = s.names ∧ r.values.map WireType.of = s.values.map WireType.of := by
  rw [← map_fst_shape, ← map_fst_shape, ← map_snd_shape, ← map_snd_shape]
  constructor
  · intro h
    rw [h]
    exact ⟨rfl, rfl⟩
  · rintro ⟨hnames, htypes⟩
    exact (List.zip_of_prod hnames htypes).trans (List.zip_of_prod rfl rfl).symm

end Record

/-- No type name begins another one. -/
theorem WireType.delimited_name : Delimited (fun _ => True) fun t : WireType => t.name.toList := by
  intro x y a b _ _ h
  cases x <;> cases y <;> simp_all [WireType.name]

/-! ### Signatures -/

namespace Signature

/-- A signature is the part of the time and one part for each field. -/
theorem chars_eq (r : Record) (i : Option Nat) :
    chars r i = timeChars i ++ r.shape.flatMap fun p => fieldChars p.1 p.2 := by
  rw [chars, Record.shape, List.flatMap_map]

/-- The part of a field ends by itself. -/
theorem delimited_fieldChars :
    Delimited (fun _ => True) fun p : String × WireType => fieldChars p.1 p.2 := by
  -- The name is quoted, so it ends by itself; then no type name begins another one.
  rintro ⟨name, type⟩ ⟨name', type'⟩ a b _ _ h
  simp only [fieldChars, List.append_assoc, List.cons_append, List.nil_append] at h
  obtain ⟨rfl, htype⟩ := Text.delimited_quoteChars (fun _ _ => trivial) (fun _ _ => trivial) h
  obtain ⟨rfl, hrest⟩ := WireType.delimited_name (fun _ _ => trivial) (fun _ _ => trivial)
    (List.cons.inj htype).2
  exact ⟨rfl, (List.cons.inj hrest).2⟩

/-- The part of a field begins with a quotation mark. -/
theorem fieldChars_eq_cons (name : String) (type : WireType) :
    ∃ s, fieldChars name type = '"' :: s := ⟨_, rfl⟩

/-- The part of the time column cannot be taken for a field. -/
theorem timeChars_append_ne (i : Nat) (s : List Char) (fs : List (String × WireType)) :
    timeChars (some i) ++ s ≠ fs.flatMap fun p => fieldChars p.1 p.2 := by
  intro h
  cases fs with
  | nil => simp [timeChars] at h
  | cons p fs =>
    obtain ⟨t, ht⟩ := fieldChars_eq_cons p.1 p.2
    simp [timeChars, ht] at h

/-- **A signature tells its shape,** and where the time stands. -/
theorem chars_inj {r s : Record} {i j : Option Nat} (h : chars r i = chars s j) :
    i = j ∧ r.shape = s.shape := by
  have hne : ∀ p : String × WireType, fieldChars p.1 p.2 ≠ [] := by
    intro p
    obtain ⟨t, ht⟩ := fieldChars_eq_cons p.1 p.2
    simp [ht]
  rw [chars_eq, chars_eq] at h
  -- A time column on one side only would have to be read as a field on the other.
  cases i with
  | none =>
    cases j with
    | none => exact ⟨rfl, delimited_fieldChars.flatMap_inj hne h⟩
    | some j => exact absurd h.symm (timeChars_append_ne j _ _)
  | some i =>
    cases j with
    | none => exact absurd h (timeChars_append_ne i _ _)
    | some j =>
      simp only [timeChars, List.cons_append, List.append_assoc, List.nil_append] at h
      obtain ⟨rfl, hrest⟩ := Text.delimited_toDigits (startsIn_cons.2 rfl) (startsIn_cons.2 rfl)
        (List.cons.inj h).2
      exact ⟨rfl, delimited_fieldChars.flatMap_inj hne (List.cons.inj hrest).2⟩

/-- **A signature determines the time column and the shape,** and nothing else. -/
theorem of_eq_iff {r s : Record} {i j : Option Nat} :
    Signature.of r i = Signature.of s j ↔ i = j ∧ r.shape = s.shape := by
  constructor
  · intro h
    exact chars_inj (String.ofList_inj.1 (Signature.mk.inj h))
  · rintro ⟨rfl, hshape⟩
    rw [Signature.of, Signature.of, chars_eq, chars_eq, hshape]

end Signature

/-! ### Descriptors -/

namespace Descriptor

/-- An element of a descriptor: the position of the time column, or the pair of a field. -/
def partChars : Nat ⊕ (String × WireType) → List Char
  | .inl i => Nat.toDigits 10 i
  | .inr p => fieldChars p.1 p.2

/-- The elements of the descriptor of a shape. -/
def elements (fs : List (String × WireType)) (i : Option Nat) :
    List (Nat ⊕ (String × WireType)) :=
  i.toList.map .inl ++ fs.map .inr

theorem parts_eq (r : Record) (i : Option Nat) :
    parts r i = (elements r.shape i).map partChars := by
  cases i <;> simp [parts, elements, Record.shape, partChars]

/-- The time stands before all fields, so it is told apart from them. -/
theorem elements_inj {fs gs : List (String × WireType)} {i j : Option Nat}
    (h : elements fs i = elements gs j) : i = j ∧ fs = gs := by
  cases i with
  | none =>
    cases j with
    | none =>
      exact ⟨rfl, (List.map_inj_right fun _ _ => Sum.inr.inj).1 (by simpa [elements] using h)⟩
    | some j => cases fs <;> simp [elements] at h
  | some i =>
    cases j with
    | none => cases gs <;> simp [elements] at h
    | some j =>
      simp only [elements, Option.toList_some, List.map_cons, List.map_nil, List.cons_append,
        List.nil_append, List.cons.injEq, Sum.inl.injEq] at h
      exact ⟨congrArg some h.1, (List.map_inj_right fun _ _ => Sum.inr.inj).1 h.2⟩

/-- A natural begins with a digit. -/
theorem exists_digit_toDigits (n : Nat) :
    ∃ c s, Nat.toDigits 10 n = c :: s ∧ c.isDigit = true := by
  obtain ⟨c, s, hc⟩ := List.exists_cons_of_ne_nil (Nat.toDigits_ne_nil (n := n) (b := 10))
  exact ⟨c, s, hc, Text.isDigit_of_mem_toDigits (n := n) (by simp [hc])⟩

/-- The pair of a field ends by itself. -/
theorem delimited_fieldChars :
    Delimited (fun _ => True) fun p : String × WireType => fieldChars p.1 p.2 := by
  rintro ⟨name, type⟩ ⟨name', type'⟩ a b _ _ h
  simp only [fieldChars, List.append_assoc, List.cons_append, List.nil_append,
    List.cons.injEq, true_and] at h
  obtain ⟨rfl, htype⟩ := Text.delimited_quoteChars (fun _ _ => trivial) (fun _ _ => trivial) h
  simp only [List.cons.injEq, true_and] at htype
  obtain ⟨rfl, hrest⟩ := WireType.delimited_name (fun _ _ => trivial) (fun _ _ => trivial) htype
  exact ⟨rfl, by simpa using hrest⟩

/-- An element ends at a comma or a bracket. -/
theorem delimited_partChars : Delimited (fun c => c = ',' ∨ c = ']') partChars := by
  -- A number begins with a digit and a pair with a bracket.
  have hmixed : ∀ (i : Nat) (p : String × WireType) (a b : List Char),
      partChars (.inl i) ++ a ≠ partChars (.inr p) ++ b := by
    intro i p a b h
    obtain ⟨c, s, hc, hdigit⟩ := exists_digit_toDigits i
    simp only [partChars, hc, fieldChars, List.cons_append, List.cons.injEq] at h
    rw [h.1] at hdigit
    exact absurd hdigit (by decide)
  rintro (i | p) (j | q) a b ha hb h
  · have hstop : ∀ c : Char, c = ',' ∨ c = ']' → c.isDigit = false := by
      rintro c (rfl | rfl) <;> rfl
    obtain ⟨rfl, hrest⟩ := Text.delimited_toDigits (ha.mono hstop) (hb.mono hstop) h
    exact ⟨rfl, hrest⟩
  · exact absurd h (hmixed i q a b)
  · exact absurd h.symm (hmixed j p b a)
  · obtain ⟨rfl, hrest⟩ := delimited_fieldChars (fun _ _ => trivial) (fun _ _ => trivial) h
    exact ⟨rfl, hrest⟩

/-- No element could be the closing bracket. -/
theorem exists_partChars_eq_cons (x : Nat ⊕ (String × WireType)) :
    ∃ c s, partChars x = c :: s ∧ c ≠ ']' := by
  cases x with
  | inl i =>
    obtain ⟨c, s, hc, hdigit⟩ := exists_digit_toDigits i
    refine ⟨c, s, hc, ?_⟩
    rintro rfl
    exact absurd hdigit (by decide)
  | inr p => exact ⟨'[', _, rfl, by decide⟩

/-- A descriptor ends by itself, whatever follows. -/
theorem chars_append_inj {r s : Record} {i j : Option Nat} {a b : List Char}
    (h : chars r i ++ a = chars s j ++ b) : (i = j ∧ r.shape = s.shape) ∧ a = b := by
  simp only [chars, parts_eq, List.cons_append, List.append_assoc, List.cons.injEq, true_and,
    List.nil_append] at h
  obtain ⟨helements, hrest⟩ :=
    delimited_partChars.intercalate_inj exists_partChars_eq_cons h
  exact ⟨elements_inj helements, hrest⟩

/-- **A descriptor tells its shape,** and where the time stands. -/
theorem chars_inj {r s : Record} {i j : Option Nat} (h : chars r i = chars s j) :
    i = j ∧ r.shape = s.shape :=
  (chars_append_inj (congrArg (· ++ []) h)).1

/-- **A descriptor determines the time column and the shape,** and nothing else. -/
theorem text_eq_iff {r s : Record} {i j : Option Nat} :
    text r i = text s j ↔ i = j ∧ r.shape = s.shape := by
  constructor
  · intro h
    exact chars_inj (String.ofList_inj.1 h)
  · rintro ⟨rfl, hshape⟩
    rw [text, text, chars, chars, parts_eq, parts_eq, hshape]

end Descriptor

/-- **Signature, descriptor and shape tell the same records apart.** Two records, each with
    or without a time column, have one signature exactly when they have one descriptor, and
    exactly when the time columns, the names in order and the types of the values agree. -/
theorem tfae_signature_descriptor_shape (r s : Record) (i j : Option Nat) :
    List.TFAE [Signature.of r i = Signature.of s j,
      Descriptor.text r i = Descriptor.text s j,
      i = j ∧ r.names = s.names ∧ r.values.map WireType.of = s.values.map WireType.of] := by
  rw [← Record.shape_eq_iff]
  tfae_have 1 ↔ 3 := Signature.of_eq_iff
  tfae_have 2 ↔ 3 := Descriptor.text_eq_iff
  tfae_finish

end Telemetry
