import Telemetry.Proofs.Json.Quoted

namespace Telemetry.Text

/-!
# Delimited text

Lines, keys and frames are made by writing pieces one after the other.  Nothing is lost if
each piece can be told from what follows it.

* `StartsIn p s` — the text `s` is empty or starts with a character of the set `p`.
* `Delimited stop f` — what `f` writes can be told from what follows, if that starts in
  `stop`; `DelimitedAt stop f P x` — so can what it writes for `x`, among what satisfies `P`.
* `delimited_toDigits`, `delimited_quoteChars` — decimal numbers end before the first
  character that is no digit, and quoted text ends by itself.
* `Delimited.flatMap_inj`, `intercalate_inj` — pieces written one after the other, or with
  commas between them and a bracket at the end, determine the list of the pieces.
* `afterPiece` — what stands after a piece of such a bracketed list.
-/

variable {α : Type} {stop : Char → Prop} {f : α → List Char}

/-- The text is empty or starts with a character of the set. -/
def StartsIn (p : Char → Prop) (s : List Char) : Prop := ∀ c ∈ s.head?, p c

theorem startsIn_nil (p : Char → Prop) : StartsIn p [] := by simp [StartsIn]

@[simp] theorem startsIn_cons {p : Char → Prop} {c : Char} {s : List Char} :
    StartsIn p (c :: s) ↔ p c := by
  simp [StartsIn]

/-- A text starts where its first part does, unless that part is empty. -/
theorem StartsIn.append {p : Char → Prop} {s t : List Char} (hs : StartsIn p s)
    (ht : StartsIn p t) : StartsIn p (s ++ t) := by
  cases s with
  | nil => exact ht
  | cons c s => simpa using hs

theorem StartsIn.mono {p q : Char → Prop} (hpq : ∀ c, p c → q c) {s : List Char}
    (hs : StartsIn p s) : StartsIn q s :=
  fun c hc => hpq c (hs c hc)

/-- What `f` writes can be told from what follows, if that starts in `stop`. -/
def Delimited (stop : Char → Prop) (f : α → List Char) : Prop :=
  ∀ ⦃x y : α⦄ ⦃a b : List Char⦄, StartsIn stop a → StartsIn stop b →
    f x ++ a = f y ++ b → x = y ∧ a = b

/-- What `f` writes for `x` can be told from what follows, and from what it writes for anything
    else that satisfies `P`. -/
def DelimitedAt (stop : Char → Prop) (f : α → List Char) (P : α → Prop) (x : α) : Prop :=
  ∀ ⦃y : α⦄ ⦃a b : List Char⦄, P y → StartsIn stop a → StartsIn stop b →
    f x ++ a = f y ++ b → x = y ∧ a = b

/-- Fewer characters to stop at are no harm. -/
theorem DelimitedAt.mono {stop' : Char → Prop} {P : α → Prop} {x : α} (hx : DelimitedAt stop f P x)
    (h : ∀ c, stop' c → stop c) : DelimitedAt stop' f P x :=
  fun _ _ _ hy ha hb heq => hx hy (ha.mono h) (hb.mono h) heq

/-! ### Numbers and quoted text -/

/-- Digits end before the first character that is no digit. -/
theorem takeWhile_isDigit_append {ds rest : List Char} (hds : ∀ c ∈ ds, c.isDigit = true)
    (hrest : StartsIn (fun c => c.isDigit = false) rest) :
    (ds ++ rest).takeWhile Char.isDigit = ds ∧ (ds ++ rest).dropWhile Char.isDigit = rest := by
  rw [List.takeWhile_append_of_pos hds, List.dropWhile_append_of_pos hds]
  cases rest with
  | nil => simp
  | cons c rest => simp [startsIn_cons.1 hrest]

/-- Naturals are written with digits only. -/
theorem isDigit_of_mem_toDigits {n : Nat} {c : Char} (hc : c ∈ Nat.toDigits 10 n) :
    c.isDigit = true :=
  Nat.isDigit_of_mem_toDigits (by decide) (by decide) hc

/-- A decimal number ends before the first character that is no digit. -/
theorem delimited_toDigits : Delimited (fun c => c.isDigit = false) (Nat.toDigits 10) := by
  intro m n a b ha hb h
  -- Both digits and rest can be computed from the whole, and so can the number.
  obtain ⟨hm, ha'⟩ := takeWhile_isDigit_append (fun _ => isDigit_of_mem_toDigits (n := m)) ha
  obtain ⟨hn, hb'⟩ := takeWhile_isDigit_append (fun _ => isDigit_of_mem_toDigits (n := n)) hb
  have hdigits : Nat.toDigits 10 m = Nat.toDigits 10 n := by rw [← hm, h, hn]
  refine ⟨?_, by rw [← ha', h, hb']⟩
  rw [← Nat.ofDigitChars_ten_toDigits (n := m), hdigits, Nat.ofDigitChars_ten_toDigits]

/-- Quoted text ends by itself. -/
theorem delimited_quoteChars : Delimited (fun _ => True) fun s : String =>
    Json.quoteChars s.toList := by
  intro s t a b _ _ h
  obtain ⟨hst, hab⟩ := Json.quoteChars_append_inj h
  exact ⟨String.toList_inj.1 hst, hab⟩

/-! ### Lists -/

/-- Pieces that end by themselves and are not empty can be written one after the other. -/
theorem Delimited.flatMap_inj (hf : Delimited (fun _ => True) f) (hne : ∀ x, f x ≠ [])
    {xs ys : List α} (h : xs.flatMap f = ys.flatMap f) : xs = ys := by
  induction xs generalizing ys with
  | nil =>
    cases ys with
    | nil => rfl
    | cons y ys =>
      rw [List.flatMap_nil, List.flatMap_cons] at h
      exact absurd (List.append_eq_nil_iff.1 h.symm).1 (hne y)
  | cons x xs ih =>
    cases ys with
    | nil =>
      rw [List.flatMap_nil, List.flatMap_cons] at h
      exact absurd (List.append_eq_nil_iff.1 h).1 (hne x)
    | cons y ys =>
      rw [List.flatMap_cons, List.flatMap_cons] at h
      obtain ⟨rfl, hrest⟩ := hf (fun _ _ => trivial) (fun _ _ => trivial) h
      rw [ih hrest]

section Pieces

variable {gap : List Char} {close : Char} {P : α → Prop}

/-- What follows a piece of a bracketed list: the bracket, or a comma, a gap and the next
    piece. -/
def afterPiece (gap : List Char) (close : Char) (f : α → List Char) (rest : List Char) :
    List α → List Char
  | [] => close :: rest
  | x :: xs => ',' :: (gap ++ (f x ++ afterPiece gap close f rest xs))

/-- A comma or the closing character follows each piece. -/
theorem startsIn_afterPiece (gap : List Char) (close : Char) (f : α → List Char)
    (rest : List Char) (xs : List α) :
    StartsIn (fun c => c = ',' ∨ c = close) (afterPiece gap close f rest xs) := by
  cases xs <;> simp [afterPiece]

/-- Pieces with commas between them are a piece and what follows it. -/
theorem intercalate_cons_append (gap : List Char) (close : Char) (f : α → List Char) (x : α)
    (xs : List α) (rest : List Char) :
    (',' :: gap).intercalate ((x :: xs).map f) ++ close :: rest =
      f x ++ afterPiece gap close f rest xs := by
  induction xs generalizing x with
  | nil => simp [afterPiece]
  | cons y ys ih =>
    rw [afterPiece, ← ih y, List.map_cons, List.map_cons, List.intercalate_cons_cons]
    simp

/-- **What follows a piece** tells all further pieces, and the rest. -/
theorem afterPiece_inj (hclose : close ≠ ',') {xs ys : List α} {a b : List Char}
    (hxs : ∀ x ∈ xs, DelimitedAt (fun c => c = ',' ∨ c = close) f P x) (hys : ∀ y ∈ ys, P y)
    (h : afterPiece gap close f a xs = afterPiece gap close f b ys) : xs = ys ∧ a = b := by
  -- A comma or a bracket tells whether there is a further piece, so both lists end together.
  induction xs generalizing ys with
  | nil =>
    cases ys with
    | nil => exact ⟨rfl, (List.cons.inj h).2⟩
    | cons y ys => exact absurd (List.cons.inj h).1 hclose
  | cons x xs ih =>
    cases ys with
    | nil => exact absurd (List.cons.inj h).1.symm hclose
    | cons y ys =>
      obtain ⟨rfl, hrest⟩ := hxs x (by simp) (hys y (by simp))
        (startsIn_afterPiece gap close f a xs) (startsIn_afterPiece gap close f b ys)
        (List.append_cancel_left (List.cons.inj h).2)
      obtain ⟨rfl, rfl⟩ := ih (fun z hz => hxs z (by simp [hz])) (fun z hz => hys z (by simp [hz]))
        hrest
      exact ⟨rfl, rfl⟩

/-- **A bracketed list determines its pieces** if each ends at a comma or a bracket and none
    could be the closing bracket. -/
theorem intercalate_inj (hclose : close ≠ ',') {xs ys : List α} {a b : List Char}
    (hhead : ∀ x, P x → ∃ c s, f x = c :: s ∧ c ≠ close) (hpieces : ∀ x ∈ xs, P x)
    (hxs : ∀ x ∈ xs, DelimitedAt (fun c => c = ',' ∨ c = close) f P x) (hys : ∀ y ∈ ys, P y)
    (h : (',' :: gap).intercalate (xs.map f) ++ close :: a =
      (',' :: gap).intercalate (ys.map f) ++ close :: b) : xs = ys ∧ a = b := by
  -- A list with a piece cannot begin with the bracket, so it is not the empty one.
  have hcons : ∀ (x : α) (xs : List α) (a b : List Char), P x →
      f x ++ afterPiece gap close f a xs ≠ close :: b := by
    intro x xs a b hx heq
    obtain ⟨c, s, hc, hne⟩ := hhead x hx
    rw [hc] at heq
    exact hne (List.cons.inj heq).1
  cases xs with
  | nil =>
    cases ys with
    | nil => exact ⟨rfl, (List.cons.inj h).2⟩
    | cons y ys =>
      rw [intercalate_cons_append] at h
      exact absurd h.symm (hcons y ys b a (hys y (by simp)))
  | cons x xs =>
    cases ys with
    | nil =>
      rw [intercalate_cons_append] at h
      exact absurd h (hcons x xs a b (hpieces x (by simp)))
    | cons y ys =>
      rw [intercalate_cons_append, intercalate_cons_append] at h
      obtain ⟨rfl, hrest⟩ := hxs x (by simp) (hys y (by simp))
        (startsIn_afterPiece gap close f a xs) (startsIn_afterPiece gap close f b ys) h
      obtain ⟨rfl, rfl⟩ := afterPiece_inj hclose (fun z hz => hxs z (by simp [hz]))
        (fun z hz => hys z (by simp [hz])) hrest
      exact ⟨rfl, rfl⟩

end Pieces

/-- The same for pieces of any kind, with commas alone between them. -/
theorem Delimited.intercalate_inj (hf : Delimited (fun c => c = ',' ∨ c = ']') f)
    (hhead : ∀ x, ∃ c s, f x = c :: s ∧ c ≠ ']') {xs ys : List α} {a b : List Char}
    (h : [','].intercalate (xs.map f) ++ ']' :: a = [','].intercalate (ys.map f) ++ ']' :: b) :
    xs = ys ∧ a = b :=
  Text.intercalate_inj (P := fun _ => True) (by decide) (fun x _ => hhead x) (fun _ _ => trivial)
    (fun _ _ _ _ _ _ ha hb heq => hf ha hb heq) (fun _ _ => trivial) h

end Telemetry.Text
