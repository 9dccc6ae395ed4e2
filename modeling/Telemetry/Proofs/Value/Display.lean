import Telemetry.Value.Text
import Telemetry.Proofs.Double.Shortest

namespace Telemetry

/-!
# Stringified values are unambiguous

The stringified form of a value keeps everything about it but three things: bytes cannot be
told from their base64 text, a NaN or an infinity not from an absent value, and integers not by
their width.

* `Value.norm` — a value without these differences, at every depth; `Value.Normal` — a value
  that has none of them.
* `Value.chars_norm` — the stringified form does not show them.
* `Value.mark` — what the first character tells.
* `Value.Normal.delimited` — it shows everything else: a text ends by itself, a number at the
  first character that cannot continue it, and an instant has no blank after its comma.
* `Value.display_eq_iff` — so stringified forms are equal exactly if the values are, up to
  these differences.
-/

open Json (Numeral endsToken)
open Text (StartsIn DelimitedAt startsIn_cons)

namespace Value

/-! ### Normal values -/

mutual

/-- The value up to what its stringified form does not show: bytes as their base64 text, a NaN
    or an infinity as an absent value, and an unsigned integer that fits as a signed one. -/
def norm : Value → Value
  | null => null
  | bool b => bool b
  | int n => int n
  | uint n => ofUInt64 n
  | float x => if x.isFinite then float x else null
  | time t => time t
  | text s => text s
  | bytes b => text (Base64.encode b)
  | array items => array (normItems items)
  | map entries => map (normEntries entries)

/-- Each item by itself. -/
def normItems : List Value → List Value
  | [] => []
  | v :: vs => norm v :: normItems vs

/-- Each key and each value by itself. -/
def normEntries : List (Value × Value) → List (Value × Value)
  | [] => []
  | (k, v) :: es => (norm k, norm v) :: normEntries es

end

/-- A value all of which its stringified form shows. -/
inductive Normal : Value → Prop
  | null : Normal null
  | bool (b : Bool) : Normal (bool b)
  | int (n : Int64) : Normal (int n)
  | uint {n : UInt64} (h : 0x8000000000000000 ≤ n.toNat) : Normal (uint n)
  | float {x : Double} (h : x.isFinite = true) : Normal (float x)
  | time (t : Instant) : Normal (time t)
  | text (s : String) : Normal (text s)
  | array {items : List Value} (h : ∀ v ∈ items, Normal v) : Normal (array items)
  | map {entries : List (Value × Value)} (hkeys : ∀ e ∈ entries, Normal e.1)
      (hvalues : ∀ e ∈ entries, Normal e.2) : Normal (map entries)

/-- An unsigned word in normal form is signed if it fits. -/
theorem normal_ofUInt64 (n : UInt64) : Normal (ofUInt64 n) := by
  unfold ofUInt64
  split
  · exact .int _
  · exact .uint (by omega)

mutual

/-- **The normal form is normal.** -/
theorem normal_norm (v : Value) : Normal v.norm := by
  cases v with
  | null => exact .null
  | bool b => exact .bool b
  | int n => exact .int n
  | uint n => exact normal_ofUInt64 n
  | float x =>
    rw [norm]
    split
    · rename_i hx
      exact .float hx
    · exact .null
  | time t => exact .time t
  | text s => exact .text s
  | bytes b => exact .text _
  | array items => exact .array (normal_normItems items)
  | map entries =>
    exact .map (fun e he => (normal_normEntries entries e he).1)
      (fun e he => (normal_normEntries entries e he).2)

theorem normal_normItems (vs : List Value) : ∀ v ∈ normItems vs, Normal v := by
  cases vs with
  | nil => simp [normItems]
  | cons v vs =>
    intro w hw
    rcases List.mem_cons.1 hw with rfl | hw
    · exact normal_norm v
    · exact normal_normItems vs w hw

theorem normal_normEntries (es : List (Value × Value)) :
    ∀ e ∈ normEntries es, Normal e.1 ∧ Normal e.2 := by
  cases es with
  | nil => simp [normEntries]
  | cons e es =>
    intro f hf
    rcases List.mem_cons.1 hf with rfl | hf
    · exact ⟨normal_norm e.1, normal_norm e.2⟩
    · exact normal_normEntries es f hf

end

/-- An unsigned word is shown alike in both kinds. -/
theorem chars_ofUInt64 (n : UInt64) : (ofUInt64 n).chars = (uint n).chars := by
  unfold ofUInt64
  split
  · rename_i h
    have hint : (Int64.ofNat n.toNat).toInt = n.toNat := Int64.toInt_ofNat_of_lt h
    simp only [chars, hint, Numeral.toList_toString_int, Nat.toString_eq_ofList_toDigits,
      String.toList_ofList, Numeral.toDigits_eq_chars_ofInt]
  · rfl

mutual

/-- **The stringified form does not show the differences.** -/
theorem chars_norm (v : Value) : v.norm.chars = v.chars := by
  cases v with
  | null | bool | int | time | text => rfl
  | uint n => exact chars_ofUInt64 n
  | float x =>
    rw [norm, chars, Double.chars]
    split
    · rename_i hx
      rw [chars, Double.chars, if_pos hx]
    · rfl
  | bytes b => rfl
  | array items => simp only [norm, chars, chars_normItems items]
  | map entries => simp only [norm, chars, chars_normEntries entries]

/-- Items are shown alike in normal form. -/
theorem chars_normItems (vs : List Value) : itemsChars (normItems vs) = itemsChars vs := by
  cases vs with
  | nil => rfl
  | cons v vs =>
    cases vs with
    | nil => simp only [normItems, itemsChars, chars_norm v]
    | cons w vs =>
      have htail := chars_normItems (w :: vs)
      simp only [normItems] at htail
      simp only [normItems, itemsChars, chars_norm v, htail]

theorem chars_normEntries (es : List (Value × Value)) :
    entriesChars (normEntries es) = entriesChars es := by
  cases es with
  | nil => rfl
  | cons e es =>
    cases es with
    | nil => simp only [normEntries, entriesChars, chars_norm e.1, chars_norm e.2]
    | cons f es =>
      have htail := chars_normEntries (f :: es)
      simp only [normEntries] at htail
      simp only [normEntries, entriesChars, chars_norm e.1, chars_norm e.2, htail]

end

/-! ### First characters -/

/-- What the first character of a stringified form can tell. -/
inductive Mark where
  | word
  | number
  | quote
  | bracket
  | brace
  /-- no value begins so -/
  | none
deriving DecidableEq

/-- What a first character tells. -/
def Mark.of (c : Char) : Mark :=
  if c.isDigit = true ∨ c = '-' then number
  else if c = '"' then quote
  else if c = '[' then bracket
  else if c = '{' then brace
  else if c = 'n' ∨ c = 't' ∨ c = 'f' then word
  else none

/-- What the first character of the stringified form tells. -/
def mark : Value → Mark
  | null | bool _ => .word
  | int _ | uint _ | float _ => .number
  | text _ | bytes _ => .quote
  | time _ | array _ => .bracket
  | map _ => .brace

/-- The numeral of a number, and zero for other values. -/
def numeral : Value → Numeral
  | uint n => .ofInt n.toNat
  | float x => x.numeral
  | int n => .ofInt n.toInt
  | _ => .ofInt 0

/-- A number is written as its numeral. -/
theorem Normal.chars_eq_numeral {v : Value} (hv : Normal v) (h : v.mark = .number) :
    v.chars = v.numeral.chars ∧ v.numeral.WellFormed := by
  cases hv with
  | int n => exact ⟨Numeral.toList_toString_int _, Numeral.wellFormed_ofInt _⟩
  | @uint n hn =>
    refine ⟨?_, Numeral.wellFormed_ofInt _⟩
    rw [chars, Nat.toString_eq_ofList_toDigits, String.toList_ofList,
      Numeral.toDigits_eq_chars_ofInt]
    rfl
  | @float x hx =>
    refine ⟨?_, x.wellFormed_numeral⟩
    rw [chars, Double.chars, if_pos hx, Double.finiteChars_eq]
    rfl
  | null | bool | time | text | array | map => simp [mark] at h

/-- The first character of a value tells what kind of text follows. -/
theorem Normal.exists_chars_eq_cons {v : Value} (hv : Normal v) :
    ∃ c s, v.chars = c :: s ∧ Mark.of c = v.mark := by
  -- Numbers begin as their numerals do; every other kind has first characters of its own.
  by_cases hnumber : v.mark = .number
  · obtain ⟨hchars, hwell⟩ := hv.chars_eq_numeral hnumber
    obtain ⟨c, s, hc, hfirst⟩ := Numeral.exists_chars_eq_cons hwell
    refine ⟨c, s, hchars.trans hc, ?_⟩
    rw [hnumber, Mark.of, if_pos hfirst]
  · cases hv with
    | null => exact ⟨_, _, rfl, by decide⟩
    | bool b => cases b <;> exact ⟨_, _, rfl, by decide⟩
    | int | uint | float => exact absurd rfl hnumber
    | time t => exact ⟨_, _, rfl, rfl⟩
    | text s => exact ⟨_, _, rfl, rfl⟩
    | array h => exact ⟨_, _, by rw [chars], rfl⟩
    | map hkeys hvalues => exact ⟨_, _, by rw [chars], rfl⟩

/-- Values with one text before different rests have one first character. -/
theorem Normal.mark_eq {v w : Value} (hv : Normal v) (hw : Normal w) {a b : List Char}
    (h : v.chars ++ a = w.chars ++ b) : v.mark = w.mark := by
  obtain ⟨c, s, hc, hmark⟩ := hv.exists_chars_eq_cons
  obtain ⟨d, t, hd, hmark'⟩ := hw.exists_chars_eq_cons
  rw [hc, hd] at h
  rw [← hmark, ← hmark', (List.cons.inj h).1]

/-- No value begins with a closing bracket. -/
theorem Normal.exists_head_ne {v : Value} (hv : Normal v) {close : Char}
    (hclose : Mark.of close = .none) : ∃ c s, v.chars = c :: s ∧ c ≠ close := by
  obtain ⟨c, s, hc, hmark⟩ := hv.exists_chars_eq_cons
  refine ⟨c, s, hc, ?_⟩
  rintro rfl
  rw [hclose] at hmark
  cases v <;> exact absurd hmark (by simp [mark])

/-! ### Words and numbers -/

/-- What can follow a value. -/
def endsValue (c : Char) : Prop := c = ',' ∨ c = ':' ∨ c = ']' ∨ c = '}'

/-- What may follow a value may follow a token. -/
theorem endsToken_of_endsValue {c : Char} (h : endsValue c) : endsToken c := by
  rcases h with rfl | rfl | rfl | rfl <;> decide

/-- Words are told apart: no word begins another one. -/
theorem Normal.inj_of_word {v w : Value} (hv : Normal v) (hw : Normal w) (hmv : v.mark = .word)
    (hmw : w.mark = .word) {a b : List Char} (h : v.chars ++ a = w.chars ++ b) :
    v = w ∧ a = b := by
  have hword : ∀ {v : Value}, Normal v → v.mark = .word →
      v = Value.null ∨ v = Value.bool true ∨ v = Value.bool false := by
    intro v hv hmv
    cases hv with
    | null => exact .inl rfl
    | bool b => cases b <;> simp
    | int | uint | float | time | text | array | map => simp [mark] at hmv
  rcases hword hv hmv with rfl | rfl | rfl <;> rcases hword hw hmw with rfl | rfl | rfl <;>
    simp_all [chars, boolChars]

/-- No double is shown as an integer is. -/
theorem numeral_ne_ofInt (x : Double) (n : Int) : x.numeral ≠ .ofInt n := by
  intro h
  rcases x.fraction_or_exponent with hfraction | hexponent
  · exact hfraction (by rw [h]; rfl)
  · exact hexponent (by rw [h]; rfl)

/-- A numeral stands for one number: signed integers end where the unsigned ones of a normal
    value begin, and doubles have a fraction or an exponent. -/
theorem Normal.numeral_inj {v w : Value} (hv : Normal v) (hw : Normal w) (hmv : v.mark = .number)
    (hmw : w.mark = .number) (h : v.numeral = w.numeral) : v = w := by
  cases hv with
  | int n =>
    cases hw with
    | int k => rw [Int64.toInt_inj.1 (Numeral.ofInt_inj h)]
    | @uint k hk =>
      -- The unsigned one would have fitted as a signed one.
      have heq := Numeral.ofInt_inj h
      have := n.toInt_lt
      omega
    | float hx => exact absurd h.symm (numeral_ne_ofInt _ _)
    | null | bool | time | text | array | map => simp [mark] at hmw
  | @uint n hn =>
    cases hw with
    | int k =>
      have heq := Numeral.ofInt_inj h
      have := k.toInt_lt
      omega
    | @uint k hk =>
      have heq := Numeral.ofInt_inj h
      rw [UInt64.toNat_inj.1 (by omega : n.toNat = k.toNat)]
    | float hx => exact absurd h.symm (numeral_ne_ofInt _ _)
    | null | bool | time | text | array | map => simp [mark] at hmw
  | @float x hx =>
    cases hw with
    | int | uint => exact absurd h (numeral_ne_ofInt _ _)
    | @float y hy => rw [Double.numeral_inj hx hy h]
    | null | bool | time | text | array | map => simp [mark] at hmw
  | null | bool | time | text | array | map => simp [mark] at hmv

/-- Numbers are told apart, whether they are words or doubles. -/
theorem Normal.inj_of_number {v w : Value} (hv : Normal v) (hw : Normal w)
    (hmv : v.mark = .number) (hmw : w.mark = .number) {a b : List Char}
    (ha : StartsIn endsValue a) (hb : StartsIn endsValue b) (h : v.chars ++ a = w.chars ++ b) :
    v = w ∧ a = b := by
  obtain ⟨hchars, hwell⟩ := hv.chars_eq_numeral hmv
  obtain ⟨hchars', hwell'⟩ := hw.chars_eq_numeral hmw
  -- The reader of numerals finds the numeral and the rest in both.
  have hread := Numeral.read?_chars hwell (ha.mono fun _ => endsToken_of_endsValue)
  have hread' := Numeral.read?_chars hwell' (hb.mono fun _ => endsToken_of_endsValue)
  rw [← hchars, h, hchars', hread', Option.some.injEq, Prod.mk.injEq] at hread
  exact ⟨hv.numeral_inj hw hmv hmw hread.1.symm, hread.2.symm⟩

/-! ### Lists -/

/-- Items have a comma and a blank between them. -/
theorem itemsChars_eq (vs : List Value) :
    itemsChars vs = [',', ' '].intercalate (vs.map chars) := by
  induction vs with
  | nil => rfl
  | cons v vs ih =>
    cases vs with
    | nil => simp [itemsChars]
    | cons w vs =>
      rw [itemsChars, ih]
      · simp [List.intercalate_cons_cons]
      · simp

/-- The characters of an entry. -/
def entryChars (e : Value × Value) : List Char := e.1.chars ++ ':' :: ' ' :: e.2.chars

theorem entriesChars_eq (es : List (Value × Value)) :
    entriesChars es = [',', ' '].intercalate (es.map entryChars) := by
  induction es with
  | nil => rfl
  | cons e es ih =>
    cases es with
    | nil => simp [entriesChars, entryChars]
    | cons f es =>
      rw [entriesChars, ih]
      · simp [entryChars, List.intercalate_cons_cons]
      · simp

/-- An instant is shown as the array of its two numbers. -/
theorem chars_time_append (t : Instant) (a : List Char) :
    (time t).chars ++ a =
      '[' :: ((int t.secs).chars ++ ',' :: (Nat.toDigits 10 t.nanos ++ ']' :: a)) := by
  simp [chars, timeChars]

theorem chars_array_append (items : List Value) (a : List Char) :
    (array items).chars ++ a =
      '[' :: ([',', ' '].intercalate (items.map chars) ++ ']' :: a) := by
  simp [chars, itemsChars_eq]

theorem chars_map_append (entries : List (Value × Value)) (a : List Char) :
    (map entries).chars ++ a =
      '{' :: ([',', ' '].intercalate (entries.map entryChars) ++ '}' :: a) := by
  simp [chars, entriesChars_eq]

/-- Instants are told apart, whatever follows them. -/
theorem time_inj_of_append {t u : Instant} {a b : List Char}
    (h : (time t).chars ++ a = (time u).chars ++ b) : t = u ∧ a = b := by
  rw [chars_time_append, chars_time_append] at h
  obtain ⟨hsecs, hrest⟩ := Normal.inj_of_number (.int t.secs) (.int u.secs) rfl rfl
    (startsIn_cons.2 (.inl rfl)) (startsIn_cons.2 (.inl rfl)) (List.cons.inj h).2
  obtain ⟨hnanos, hend⟩ := Text.delimited_toDigits (startsIn_cons.2 (by decide))
    (startsIn_cons.2 (by decide)) (List.cons.inj hrest).2
  -- The bound on the nanoseconds is a proof, so equal fields make equal instants.
  obtain ⟨secs, nanos, hlt⟩ := t
  obtain ⟨secs', nanos', hlt'⟩ := u
  cases hsecs
  cases hnanos
  exact ⟨rfl, (List.cons.inj hend).2⟩

/-- **An instant is no array:** an array has a blank after its first comma. -/
theorem time_ne_array {t : Instant} {items : List Value} (hitems : ∀ v ∈ items, Normal v)
    {a b : List Char} : (time t).chars ++ a ≠ (array items).chars ++ b := by
  intro h
  rw [chars_time_append, chars_array_append] at h
  have htail := (List.cons.inj h).2
  -- A first item of the array would be the integer of the seconds.
  cases items with
  | nil =>
    obtain ⟨c, s, hc, hne⟩ := Normal.exists_head_ne (.int t.secs) (rfl : Mark.of ']' = .none)
    rw [hc] at htail
    exact hne (List.cons.inj htail).1
  | cons v vs =>
    rw [Text.intercalate_cons_append] at htail
    have hv := hitems v (by simp)
    have hmark := Normal.mark_eq (.int t.secs) hv htail
    have hafter : StartsIn endsValue (Text.afterPiece [' '] ']' chars b vs) :=
      (Text.startsIn_afterPiece [' '] ']' chars b vs).mono (by unfold endsValue; tauto)
    obtain ⟨-, hrest⟩ := Normal.inj_of_number (.int t.secs) hv rfl hmark.symm
      (startsIn_cons.2 (.inl rfl)) hafter htail
    cases vs with
    | nil => exact absurd (List.cons.inj hrest).1 (by decide)
    | cons w vs =>
      -- What follows the comma is a digit of the nanoseconds here and a blank there.
      obtain ⟨d, ds, hd⟩ :=
        List.exists_cons_of_ne_nil (Nat.toDigits_ne_nil (n := t.nanos) (b := 10))
      have hdigit := Text.isDigit_of_mem_toDigits (n := t.nanos) (c := d) (by simp [hd])
      have hblank := (List.cons.inj hrest).2
      rw [hd] at hblank
      rw [(List.cons.inj hblank).1] at hdigit
      exact absurd hdigit (by decide)

theorem array_inj_of_append {xs ys : List Value} (hxs : ∀ v ∈ xs, Normal v)
    (hdelimited : ∀ v ∈ xs, DelimitedAt endsValue chars Normal v) (hys : ∀ v ∈ ys, Normal v)
    {a b : List Char} (h : (array xs).chars ++ a = (array ys).chars ++ b) : xs = ys ∧ a = b := by
  rw [chars_array_append, chars_array_append] at h
  have hpieces : ∀ v ∈ xs, DelimitedAt (fun c => c = ',' ∨ c = ']') chars Normal v := by
    intro v hv
    exact (hdelimited v hv).mono (by unfold endsValue; tauto)
  exact Text.intercalate_inj (by decide) (fun v hv => hv.exists_head_ne rfl) hxs hpieces hys
    (List.cons.inj h).2

/-- A key can be told from the colon after it, and a value from what follows the entry. -/
theorem delimitedAt_entryChars {e : Value × Value} (hkey : DelimitedAt endsValue chars Normal e.1)
    (hvalue : DelimitedAt endsValue chars Normal e.2) :
    DelimitedAt endsValue entryChars (fun e => Normal e.1 ∧ Normal e.2) e := by
  intro f a b hf ha hb h
  simp only [entryChars, List.append_assoc, List.cons_append] at h
  -- A colon follows either key, so the keys end together, and after the blank the values begin.
  obtain ⟨hfst, hrest⟩ := hkey hf.1 (startsIn_cons.2 (.inr (.inl rfl)))
    (startsIn_cons.2 (.inr (.inl rfl))) h
  obtain ⟨hsnd, hend⟩ := hvalue hf.2 ha hb (List.cons.inj (List.cons.inj hrest).2).2
  exact ⟨Prod.ext hfst hsnd, hend⟩

theorem map_inj_of_append {xs ys : List (Value × Value)} (hxs : ∀ e ∈ xs, Normal e.1 ∧ Normal e.2)
    (hdelimited : ∀ e ∈ xs, DelimitedAt endsValue entryChars (fun e => Normal e.1 ∧ Normal e.2) e)
    (hys : ∀ e ∈ ys, Normal e.1 ∧ Normal e.2) {a b : List Char}
    (h : (map xs).chars ++ a = (map ys).chars ++ b) : xs = ys ∧ a = b := by
  rw [chars_map_append, chars_map_append] at h
  have hhead : ∀ e : Value × Value, Normal e.1 ∧ Normal e.2 →
      ∃ c s, entryChars e = c :: s ∧ c ≠ '}' := by
    intro e he
    obtain ⟨c, s, hc, hne⟩ := he.1.exists_head_ne (rfl : Mark.of '}' = .none)
    refine ⟨c, s ++ ':' :: ' ' :: e.2.chars, ?_, hne⟩
    rw [entryChars, hc, List.cons_append]
  have hpieces : ∀ e ∈ xs, DelimitedAt (fun c => c = ',' ∨ c = '}') entryChars
      (fun e => Normal e.1 ∧ Normal e.2) e := by
    intro e he
    exact (hdelimited e he).mono (by unfold endsValue; tauto)
  exact Text.intercalate_inj (by decide) hhead hxs hpieces hys (List.cons.inj h).2

/-- **A normal value can be told from what follows it**, and from any other. -/
theorem Normal.delimited {v : Value} (hv : Normal v) : DelimitedAt endsValue chars Normal v := by
  -- The first character tells the kind of the other value; only a bracket leaves two of them.
  -- Items and entries are told apart by induction, with the list that they are in as the rest.
  induction hv with
  | null =>
    intro w a b hw _ _ h
    exact inj_of_word .null hw rfl (mark_eq .null hw h).symm h
  | bool c =>
    intro w a b hw _ _ h
    exact inj_of_word (.bool c) hw rfl (mark_eq (.bool c) hw h).symm h
  | int n =>
    intro w a b hw ha hb h
    exact inj_of_number (.int n) hw rfl (mark_eq (.int n) hw h).symm ha hb h
  | uint hn =>
    intro w a b hw ha hb h
    exact inj_of_number (.uint hn) hw rfl (mark_eq (.uint hn) hw h).symm ha hb h
  | float hx =>
    intro w a b hw ha hb h
    exact inj_of_number (.float hx) hw rfl (mark_eq (.float hx) hw h).symm ha hb h
  | time t =>
    intro w a b hw _ _ h
    have hmark := mark_eq (.time t) hw h
    cases hw with
    | time u =>
      obtain ⟨rfl, hrest⟩ := time_inj_of_append h
      exact ⟨rfl, hrest⟩
    | array hitems => exact absurd h (time_ne_array hitems)
    | null | bool | int | uint | float | text | map => simp [mark] at hmark
  | text s =>
    intro w a b hw _ _ h
    have hmark := mark_eq (.text s) hw h
    cases hw with
    | text s' =>
      obtain ⟨hs, hrest⟩ := Json.quoteChars_append_inj h
      exact ⟨congrArg Value.text (String.toList_inj.1 hs), hrest⟩
    | null | bool | int | uint | float | time | array | map => simp [mark] at hmark
  | @array items hitems ih =>
    intro w a b hw _ _ h
    have hmark := mark_eq (.array hitems) hw h
    cases hw with
    | time t => exact absurd h.symm (time_ne_array hitems)
    | array hitems' =>
      obtain ⟨rfl, hrest⟩ := array_inj_of_append hitems ih hitems' h
      exact ⟨rfl, hrest⟩
    | null | bool | int | uint | float | text | map => simp [mark] at hmark
  | @map entries hkeys hvalues ihkeys ihvalues =>
    intro w a b hw _ _ h
    have hmark := mark_eq (.map hkeys hvalues) hw h
    cases hw with
    | map hkeys' hvalues' =>
      obtain ⟨rfl, hrest⟩ := map_inj_of_append (fun e he => ⟨hkeys e he, hvalues e he⟩)
        (fun e he => delimitedAt_entryChars (ihkeys e he) (ihvalues e he))
        (fun e he => ⟨hkeys' e he, hvalues' e he⟩) h
      exact ⟨rfl, hrest⟩
    | null | bool | int | uint | float | time | text | array => simp [mark] at hmark

/-- **Stringified forms are equal exactly if the values are**, up to bytes and their base64
    text, non-finite doubles and absent values, and the width of integers. -/
theorem display_eq_iff {a b : Value} : a.display = b.display ↔ a.norm = b.norm := by
  constructor
  · intro h
    have hchars : a.chars = b.chars := String.ofList_injective h
    rw [← chars_norm a, ← chars_norm b, ← List.append_nil a.norm.chars,
      ← List.append_nil b.norm.chars] at hchars
    exact ((normal_norm a).delimited (normal_norm b) (Text.startsIn_nil _) (Text.startsIn_nil _)
      hchars).1
  · intro h
    rw [display, display, ← chars_norm a, ← chars_norm b, h]

end Value

end Telemetry
