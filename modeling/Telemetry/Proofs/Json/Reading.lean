import Telemetry.Json.Document
import Telemetry.Proofs.Json.Numeral
import Telemetry.Proofs.Text.Printable

namespace Telemetry.Json

/-!
# Documents read back

What a writer puts together from pieces is read piece by piece.  Three statements are
carried from the pieces to the whole, one for each stage of the reader.

* `quote_delimits_itself` — a literal ends at its own closing quote, whatever follows.
* `Lexes s ts` — the text `s` is cut into the tokens `ts`, in front of any rest that cannot
  continue a number.
* `Spells s t` — its tokens are one value for the machine that assembles trees.
* `Brackets.spells` — pieces with commas between them and brackets around, for arrays and
  objects alike (`Brackets.square`, `Brackets.curly`).
* `Reads n s d` — it is a text of the document `d`, nested at most `n` deep.
* `Reads.array` — items that are read, with commas between them and brackets around, are
  read as an array of exactly these items in this order.
* `Reads.ofText?` — a text that is read is accepted by itself.
-/

open Text (StartsIn startsIn_nil startsIn_cons afterPiece intercalate_cons_append)

/-! ### Tokens -/

/-- The text is cut into the tokens, in front of any rest that cannot continue a number. -/
def Lexes (s : List Char) (ts : List Token) : Prop :=
  ∀ (done : List Token) (rest : List Char), StartsIn endsToken rest →
    tokensAfter done (s ++ rest) = tokensAfter (ts.reverse ++ done) rest

/-- A token that begins with no blank is read first. -/
theorem tokensAfter_read {done : List Token} {c : Char} {s rest : List Char} {t : Token}
    (hblank : isBlank c = false) (hread : Token.read? (c :: s) = some (t, rest)) :
    tokensAfter done (c :: s) = tokensAfter (t :: done) rest := by
  rw [tokensAfter]
  split
  · rename_i h
    exact absurd h (by simp [hblank])
  · split
    · rename_i h
      rw [hread] at h
      exact absurd h (by simp)
    · rename_i h
      rw [hread, Option.some.injEq, Prod.mk.injEq] at h
      rw [h.1, h.2]

theorem lexes_nil : Lexes [] [] := fun _ _ _ => rfl

/-- Texts are cut one after the other if the second cannot continue a number. -/
theorem Lexes.append {s u : List Char} {ts us : List Token} (hs : Lexes s ts) (hu : Lexes u us)
    (hstart : StartsIn endsToken u) : Lexes (s ++ u) (ts ++ us) := by
  intro done rest hrest
  rw [List.append_assoc, hs done _ (hstart.append hrest), hu _ rest hrest, List.reverse_append,
    List.append_assoc]

/-- A character that is a token by itself needs no care about what follows. -/
theorem Lexes.cons {c : Char} {t : Token} (hblank : isBlank c = false)
    (hread : ∀ s, Token.read? (c :: s) = some (t, s)) {s : List Char} {ts : List Token}
    (hs : Lexes s ts) : Lexes (c :: s) (t :: ts) := by
  intro done rest hrest
  rw [List.cons_append, tokensAfter_read hblank (hread _), hs _ rest hrest, List.reverse_cons,
    List.append_assoc, List.singleton_append]

/-- A literal is one token, which ends at its own closing quote. -/
theorem Token.read?_quoteChars (s rest : List Char) :
    Token.read? (quoteChars s ++ rest) = some (.text (some (String.ofList s)), rest) := by
  have happ : quoteChars s ++ rest = '"' :: (s.flatMap escape ++ '"' :: rest) := by
    simp [quoteChars]
  rw [happ, Token.read?, readText_quoted]
  rfl

/-- A quoted text is one token. -/
theorem lexes_quoteChars (s : List Char) :
    Lexes (quoteChars s) [.text (some (String.ofList s))] := by
  intro done rest _
  exact tokensAfter_read (by decide) (Token.read?_quoteChars s rest)

theorem lexes_null : Lexes ['n', 'u', 'l', 'l'] [.null] := by
  intro done rest _
  exact tokensAfter_read (by decide) rfl

theorem lexes_true : Lexes ['t', 'r', 'u', 'e'] [.bool true] := by
  intro done rest _
  exact tokensAfter_read (by decide) rfl

theorem lexes_false : Lexes ['f', 'a', 'l', 's', 'e'] [.bool false] := by
  intro done rest _
  exact tokensAfter_read (by decide) rfl

/-- What begins with a digit or a minus is a number or nothing. -/
theorem Token.read?_numeral {c : Char} (hc : c.isDigit = true ∨ c = '-') (s : List Char) :
    Token.read? (c :: s) = (Numeral.read? (c :: s)).map fun r => (.number r.1.value?, r.2) := by
  unfold Token.read?
  split
  -- The last branch is that of numbers. No other one starts with a digit or a minus.
  case h_11 => rfl
  all_goals
    rename_i h
    rw [(List.cons.inj h).1] at hc
    exact absurd hc (by decide)

/-- A numeral begins with a digit or a minus. -/
theorem Numeral.exists_chars_eq_cons {n : Numeral} (hn : n.WellFormed) :
    ∃ c s, n.chars = c :: s ∧ (c.isDigit = true ∨ c = '-') := by
  obtain ⟨d, ds, hwhole⟩ := List.exists_cons_of_ne_nil hn.whole_ne_nil
  by_cases hneg : n.negative = true
  · refine ⟨'-', n.whole ++ (fractionChars n.fraction ++ exponentChars n.exponent), ?_,
      .inr rfl⟩
    simp [chars, hneg]
  · refine ⟨d, ds ++ (fractionChars n.fraction ++ exponentChars n.exponent), ?_,
      .inl (hn.whole_digits d (by simp [hwhole]))⟩
    simp [chars, hneg, hwhole]

theorem isBlank_eq_false {c : Char} (hc : c.isDigit = true ∨ c = '-') : isBlank c = false := by
  have hne : ∀ b : Char, b.isDigit = false → b ≠ '-' → c ≠ b := by
    rintro b hdigit hminus rfl
    rcases hc with hc | hc
    · rw [hdigit] at hc
      exact absurd hc (by decide)
    · exact hminus hc
  simp [isBlank, hne ' ' rfl (by decide), hne '\n' rfl (by decide), hne '\t' rfl (by decide),
    hne '\r' rfl (by decide)]

/-- A numeral is one token. -/
theorem lexes_numeral {n : Numeral} (hn : n.WellFormed) : Lexes n.chars [.number n.value?] := by
  intro done rest hrest
  obtain ⟨c, s, hc, hfirst⟩ := Numeral.exists_chars_eq_cons hn
  have hread : Token.read? (c :: (s ++ rest)) = some (.number n.value?, rest) := by
    rw [Token.read?_numeral hfirst, ← List.cons_append, ← hc, Numeral.read?_chars hn hrest]
    rfl
  rw [hc, List.cons_append, tokensAfter_read (isBlank_eq_false hfirst) hread]
  rfl

/-! ### Literals -/

/-- A literal that begins another one is the other one. -/
theorem quoteChars_prefix_iff {s t : List Char} : quoteChars s <+: quoteChars t ↔ s = t := by
  constructor
  · rintro ⟨rest, h⟩
    rw [← List.append_nil (quoteChars t)] at h
    exact (quoteChars_append_inj h).1
  · rintro rfl
    exact List.prefix_refl _

theorem toList_quote (s : String) : (quote s).toList = quoteChars s.toList := String.toList_ofList

/-- **Literals delimit themselves.** Whatever follows a literal, it is read as the text that was
    quoted, and the reader stops just behind it.  No byte below 0x20 stands in it.  So different
    texts have different literals, and no literal begins another one. -/
theorem quote_delimits_itself (s t : String) :
    (∀ rest : String,
      Token.read? (quote s ++ rest).toList = some (.text (some s), rest.toList)) ∧
    (∀ b ∈ Utf8.encode (quote s), 0x20 ≤ b.toNat) ∧
    (quote s = quote t ↔ s = t) ∧
    ((quote s).toList <+: (quote t).toList ↔ s = t) := by
  have hprefix : (quote s).toList <+: (quote t).toList ↔ s = t := by
    rw [toList_quote, toList_quote, quoteChars_prefix_iff, String.toList_inj]
  refine ⟨fun rest => ?_, fun b hb => ?_, ?_, hprefix⟩
  · rw [String.toList_append, toList_quote, Token.read?_quoteChars, String.ofList_toList]
  · exact Text.le_of_mem_encode (Text.printable_quoteChars s.toList) hb
  · constructor
    · intro h
      exact hprefix.1 (h ▸ List.prefix_refl _)
    · exact congrArg quote

/-- A backslash before a quote, a control character, and a quote that follows the literal. -/
theorem quote_delimits_itself_escapes :
    let s := "\\\"\x00é"
    Token.read? (quote s ++ "\"").toList = some (.text (some s), ['"']) ∧
      (0x5c ∈ Utf8.encode (quote s) ∧ 0x20 ≤ (0x5c : UInt8).toNat) ∧
      quote s ≠ quote (s ++ "\"") ∧ ¬(quote s).toList <+: (quote (s ++ "\"")).toList := by
  intro s
  obtain ⟨hread, hbytes, hinj, hprefix⟩ := quote_delimits_itself s (s ++ "\"")
  have hmem : 0x5c ∈ Utf8.encode (quote s) := by decide +kernel
  have hne : s ≠ s ++ "\"" := by decide +kernel
  exact ⟨hread "\"", ⟨hmem, hbytes _ hmem⟩, mt hinj.1 hne, mt hprefix.1 hne⟩

/-! ### Trees -/

/-- The tokens of the text are one value, wherever a value may stand. -/
def Spells (s : List Char) (t : Tree) : Prop :=
  ∃ ts, Lexes s ts ∧ ∀ stack, (State.value stack).run ts = some (State.deliver t stack)

/-- A text that is one token which is a value. -/
theorem spells_of_lexes {s : List Char} {tok : Token} {t : Tree} (h : Lexes s [tok])
    (hbegin : ∀ stack, State.begin stack tok = some (State.deliver t stack)) : Spells s t := by
  refine ⟨[tok], h, fun stack => ?_⟩
  simp [State.run, State.step, hbegin]

variable {α β : Type} {f : α → List Char}

/-- A kind of brackets: how they are written, how the machine goes on between them, piece by
    piece, and what it makes of all the pieces. -/
structure Brackets (β : Type) where
  left : Char
  right : Char
  opening : Token
  closing : Token
  /-- just after the opening bracket -/
  first : List Frame → State
  /-- a piece must come, after those in `done` (last first) -/
  next : (done : List β) → List Frame → State
  /-- just after a piece -/
  after : (done : List β) → List Frame → State
  whole : List β → Tree
  isBlank_left : isBlank left = false
  isBlank_right : isBlank right = false
  endsToken_right : endsToken right
  read_left : ∀ s, Token.read? (left :: s) = some (opening, s)
  read_right : ∀ s, Token.read? (right :: s) = some (closing, s)
  begin_opening : ∀ stack, State.begin stack opening = some (first stack)
  first_closing : ∀ stack, (first stack).step closing = some (State.deliver (whole []) stack)
  /-- the first piece is read as any other one -/
  run_first : ∀ {ts x}, (∀ done stack, (next done stack).run ts = some (after (x :: done) stack)) →
    ∀ stack, (first stack).run ts = some (after [x] stack)
  after_comma : ∀ done stack, (after done stack).step .comma = some (next done stack)
  after_closing : ∀ done stack,
    (after done stack).step closing = some (State.deliver (whole done.reverse) stack)

namespace Brackets

/-- The tokens of the text are one piece, wherever a piece may stand between the brackets. -/
def Takes (b : Brackets β) (s : List Char) (x : β) : Prop :=
  ∃ ts, Lexes s ts ∧ ∀ done stack, (b.next done stack).run ts = some (b.after (x :: done) stack)

/-- What follows a piece up to the closing bracket cannot continue a number. -/
theorem startsIn_afterPiece (b : Brackets β) (xs : List α) :
    StartsIn endsToken (afterPiece [] b.right f [] xs) := by
  cases xs with
  | nil => exact startsIn_cons.2 b.endsToken_right
  | cons x xs => exact startsIn_cons.2 (by decide)

/-- The rest of a list in brackets after a piece: the further pieces and the bracket. -/
theorem exists_lexes_afterPiece (b : Brackets β) {t : α → β} {xs : List α}
    (h : ∀ x ∈ xs, b.Takes (f x) (t x)) :
    ∃ ts, Lexes (afterPiece [] b.right f [] xs) ts ∧ ∀ done stack, (b.after done stack).run ts =
      some (State.deliver (b.whole (done.reverse ++ xs.map t)) stack) := by
  -- The machine's stack and the pieces so far are any, since each piece is put on both.
  induction xs with
  | nil =>
    refine ⟨[b.closing], lexes_nil.cons b.isBlank_right b.read_right, fun done stack => ?_⟩
    simp [State.run, b.after_closing]
  | cons x xs ih =>
    obtain ⟨ts, hts, hrun⟩ := h x (by simp)
    obtain ⟨us, hus, hrest⟩ := ih fun y hy => h y (by simp [hy])
    refine ⟨.comma :: (ts ++ us),
      (hts.append hus (b.startsIn_afterPiece xs)).cons (by decide) fun _ => rfl,
      fun done stack => ?_⟩
    have hcomma : (b.after done stack).run (.comma :: (ts ++ us)) =
        (b.next done stack).run (ts ++ us) := by
      rw [State.run, b.after_comma]
    rw [hcomma, State.run_append, hrun, Option.bind_some, hrest]
    simp

/-- **Pieces make a whole.** Texts of pieces, with commas between them and brackets around,
    spell what the machine makes of these pieces. -/
theorem spells (b : Brackets β) {t : α → β} {xs : List α} (h : ∀ x ∈ xs, b.Takes (f x) (t x)) :
    Spells (b.left :: ([','].intercalate (xs.map f) ++ [b.right])) (b.whole (xs.map t)) := by
  have hopen : ∀ stack, (State.value stack).step b.opening = some (b.first stack) :=
    b.begin_opening
  cases xs with
  | nil =>
    refine ⟨[b.opening, b.closing], ?_, fun stack => ?_⟩
    · exact (lexes_nil.cons b.isBlank_right b.read_right).cons b.isBlank_left b.read_left
    · simp [State.run, hopen, b.first_closing]
  | cons x xs =>
    obtain ⟨ts, hts, hrun⟩ := h x (by simp)
    have htail : ∀ y ∈ xs, b.Takes (f y) (t y) := fun y hy => h y (by simp [hy])
    obtain ⟨us, hus, hrest⟩ := b.exists_lexes_afterPiece htail
    rw [intercalate_cons_append]
    refine ⟨b.opening :: (ts ++ us),
      (hts.append hus (b.startsIn_afterPiece xs)).cons b.isBlank_left b.read_left,
      fun stack => ?_⟩
    have hrunOpen : (State.value stack).run (b.opening :: (ts ++ us)) =
        (b.first stack).run (ts ++ us) := by
      rw [State.run, hopen]
    rw [hrunOpen, State.run_append, b.run_first hrun, Option.bind_some, hrest]
    simp

/-- The brackets around items. -/
def square : Brackets Tree where
  left := '['
  right := ']'
  opening := .openArray
  closing := .closeArray
  first := .arrayStart
  next done stack := .value (.items done :: stack)
  after := .afterItem
  whole := .array
  isBlank_left := by decide
  isBlank_right := by decide
  endsToken_right := by decide
  read_left _ := rfl
  read_right _ := rfl
  begin_opening _ := rfl
  first_closing _ := rfl
  run_first := by
    intro ts t h stack
    -- After an opening bracket the machine differs from one that wants a value only in that it
    -- takes a closing bracket, with which no value starts.
    cases ts with
    | nil => exact absurd (h [] []) (by simp [State.run])
    | cons tok ts =>
      have hvalue := h [] stack
      by_cases htok : tok = .closeArray
      · subst htok
        exact absurd hvalue (by simp [State.run, State.step, State.begin])
      · have hstep : (State.arrayStart stack).step tok =
            (State.value (.items [] :: stack)).step tok := by
          cases tok <;> first | rfl | exact absurd rfl htok
        rw [State.run, hstep]
        exact hvalue
  after_comma _ _ := rfl
  after_closing _ _ := rfl

/-- The brackets around members. -/
def curly : Brackets (Option String × Tree) where
  left := '{'
  right := '}'
  opening := .openObject
  closing := .closeObject
  first := .objectStart
  next := .name
  after := .afterMember
  whole := .object
  isBlank_left := by decide
  isBlank_right := by decide
  endsToken_right := by decide
  read_left _ := rfl
  read_right _ := rfl
  begin_opening _ := rfl
  first_closing _ := rfl
  run_first := by
    intro ts m h stack
    -- Only a name goes on from either state, and then in the same way.
    cases ts with
    | nil => exact absurd (h [] []) (by simp [State.run])
    | cons tok ts =>
      have hname := h [] stack
      cases tok with
      | text n => exact hname
      | _ => simp [State.run, State.step] at hname
  after_comma _ _ := rfl
  after_closing _ _ := rfl

/-- A text of a value is an item. -/
theorem takes_item {s : List Char} {t : Tree} (h : Spells s t) : square.Takes s t := by
  obtain ⟨ts, hts, hrun⟩ := h
  exact ⟨ts, hts, fun done stack => hrun (.items done :: stack)⟩

/-- A quoted name, a colon and a text of a value are a member. -/
theorem takes_member (name : String) {s : List Char} {t : Tree} (h : Spells s t) :
    curly.Takes (quoteChars name.toList ++ ':' :: s) (some name, t) := by
  obtain ⟨ts, hts, hrun⟩ := h
  have hcolon : Lexes (':' :: s) (.colon :: ts) := hts.cons (by decide) fun _ => rfl
  have hname := (lexes_quoteChars name.toList).append hcolon (startsIn_cons.2 (by decide))
  rw [String.ofList_toList] at hname
  refine ⟨_, hname, fun done stack => ?_⟩
  show (State.value (.members done (some name) :: stack)).run ts = _
  exact hrun _

end Brackets

/-- **Items make an array.** Texts of values, with commas between them and brackets around,
    spell the array of these values. -/
theorem Spells.array {t : α → Tree} {xs : List α} (h : ∀ x ∈ xs, Spells (f x) (t x)) :
    Spells ('[' :: ([','].intercalate (xs.map f) ++ [']'])) (.array (xs.map t)) :=
  Brackets.square.spells fun x hx => Brackets.takes_item (h x hx)

/-- **Members make an object.** Quoted names with texts of values, with commas between them and
    braces around, spell the object of these members. -/
theorem Spells.object {name : α → String} {t : α → Tree} {xs : List α}
    (h : ∀ x ∈ xs, Spells (f x) (t x)) :
    Spells ('{' :: ([','].intercalate
        (xs.map fun x => quoteChars (name x).toList ++ ':' :: f x) ++ ['}']))
      (.object (xs.map fun x => (some (name x), t x))) :=
  Brackets.curly.spells fun x hx => Brackets.takes_member (name x) (h x hx)

/-- A text that spells a tree is accepted by itself. -/
theorem Spells.ofText? {s : List Char} {t : Tree} (h : Spells s t) : Tree.ofText? s = some t := by
  obtain ⟨ts, hts, hrun⟩ := h
  have htokens : tokens? s = some ts := by
    have hlex := hts [] [] (startsIn_nil _)
    rw [List.append_nil] at hlex
    rw [tokens?, hlex, tokensAfter]
    simp
  rw [Tree.ofText?, htokens, Option.bind_some, Tree.ofTokens?, hrun]
  rfl

/-! ### Documents -/

namespace Document

/-- The trees of items come after those before them, in order. -/
theorem itemTrees_eq (done : List Tree) (ds : List Document) :
    itemTrees done ds = done.reverse ++ ds.map toTree := by
  induction ds generalizing done with
  | nil => simp [itemTrees]
  | cons d ds ih => simp [itemTrees, ih]

/-- Items that are decoded from their trees are decoded one after the other. -/
theorem itemsOf?_toTree {n : Nat} {ds : List Document}
    (h : ∀ d ∈ ds, ofTree? n d.toTree = some d) (done : List Document) :
    itemsOf? n done (ds.map toTree) = some (done.reverse ++ ds) := by
  induction ds generalizing done with
  | nil => simp [itemsOf?]
  | cons d ds ih =>
    rw [List.map_cons, itemsOf?, h d (by simp)]
    simp only
    rw [ih (fun e he => h e (by simp [he])) (d :: done)]
    simp

end Document

/-- The text is a text of the document, which nests at most `n` deep. -/
def Reads (n : Nat) (s : List Char) (d : Document) : Prop :=
  Spells s d.toTree ∧ Document.ofTree? n d.toTree = some d

theorem reads_null (n : Nat) : Reads n ['n', 'u', 'l', 'l'] .null :=
  ⟨spells_of_lexes lexes_null fun _ => rfl, rfl⟩

theorem reads_bool (n : Nat) (b : Bool) :
    Reads n (if b then ['t', 'r', 'u', 'e'] else ['f', 'a', 'l', 's', 'e']) (.bool b) := by
  refine ⟨?_, rfl⟩
  cases b with
  | true => exact spells_of_lexes lexes_true fun _ => rfl
  | false => exact spells_of_lexes lexes_false fun _ => rfl

/-- Texts are read back, however they must be escaped. -/
theorem reads_text (n : Nat) (s : String) : Reads n (quoteChars s.toList) (.text s) := by
  refine ⟨spells_of_lexes (lexes_quoteChars s.toList) fun _ => ?_, rfl⟩
  rw [String.ofList_toList]
  rfl

/-- A numeral in range is read as its number. -/
theorem reads_numeral (n : Nat) {m : Numeral} (hm : m.WellFormed) {x : Number}
    (hx : m.value? = some x) : Reads n m.chars (.number x) := by
  refine ⟨spells_of_lexes (lexes_numeral hm) fun _ => ?_, rfl⟩
  rw [hx]
  rfl

/-- Integers that fit 64 bits, signed or unsigned, are read back. -/
theorem reads_int (n : Nat) {i : Int} (hi : -0x8000000000000000 ≤ i ∧ i < 0x10000000000000000) :
    Reads n (toString i).toList (.number (.integer i hi)) := by
  rw [Numeral.toList_toString_int]
  exact reads_numeral n (Numeral.wellFormed_ofInt i) (Numeral.value?_ofInt hi)

/-- Naturals that fit 64 bits are read back. -/
theorem reads_nat (n : Nat) {i : Nat} (hi : i < 0x10000000000000000) :
    Reads n (Nat.toDigits 10 i) (.number (.integer i (by omega))) := by
  rw [Numeral.toDigits_eq_chars_ofInt]
  exact reads_numeral n (Numeral.wellFormed_ofInt i) (Numeral.value?_ofInt _)

/-- **An array is read item by item.** -/
theorem Reads.array {n : Nat} {d : α → Document} {xs : List α}
    (h : ∀ x ∈ xs, Reads n (f x) (d x)) :
    Reads (n + 1) ('[' :: ([','].intercalate (xs.map f) ++ [']'])) (.array (xs.map d)) := by
  have htree : (Document.array (xs.map d)).toTree = .array (xs.map fun x => (d x).toTree) := by
    simp [Document.toTree, Document.itemTrees_eq]
  have hitems : ∀ e ∈ xs.map d, Document.ofTree? n e.toTree = some e := by
    intro e he
    obtain ⟨x, hx, rfl⟩ := List.mem_map.1 he
    exact (h x hx).2
  refine ⟨htree ▸ Spells.array fun x hx => (h x hx).1, ?_⟩
  have hread := Document.itemsOf?_toTree hitems []
  rw [List.map_map] at hread
  simp only [Function.comp_def] at hread
  simp [htree, Document.ofTree?, hread]

/-- A text that is read as a document is accepted by itself. -/
theorem Reads.ofText? {s : List Char} {d : Document} (h : Reads nestingLimit s d) :
    Document.ofText? s = some d := by
  rw [Document.ofText?, h.1.ofText?, Option.bind_some, h.2]

end Telemetry.Json
