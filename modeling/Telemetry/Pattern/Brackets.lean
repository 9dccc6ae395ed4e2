import Telemetry.Pattern.Escape

namespace Telemetry.Pattern

/-!
# Sets in brackets

A set in brackets is the union of its items: characters, ranges, named sets and further
sets in brackets.  `&&`, `--` and `~~` combine what stands left of them with what stands
right, all at the same level of binding and from left to right.

* `Item` — a set with the depth of its nesting.
* `readBrackets` — a whole set, from just after its opening bracket.
-/

/-- A set, and how deep it nests. -/
structure Item where
  set : CharSet
  depth : Nat

/-- What combines two sets. -/
inductive SetOperator where
  | inter
  | diff
  | symmDiff

/-- An open bracket or an operator that waits for its right side. -/
inductive BracketFrame where
  | bracket (outer : List Item) (negated : Bool)
  | operator (op : SetOperator) (left : Item)

/-- The union of items, last first.  A union of several is one level deeper. -/
def unite : List Item → Item
  | [] => ⟨.empty, 0⟩
  | [i] => i
  | is => ⟨is.foldl (fun s i => .union s i.set) .empty, is.foldl (fun d i => max d i.depth) 0 + 1⟩

/-- Two sets combined. -/
def combine (f : Flags) (op : SetOperator) (left right : Item) : Item :=
  let s := f.widen left.set
  let t := f.widen right.set
  let set := match op with
    | .inter => CharSet.inter s t
    | .diff => CharSet.diff s t
    | .symmDiff => CharSet.symmDiff s t
  ⟨set, max left.depth right.depth + 1⟩

/-- Closes the operator that waits for its right side, if there is one. -/
def closeOperator (f : Flags) (right : Item) : List BracketFrame → Item × List BracketFrame
  | .operator op left :: stack => (combine f op left right, stack)
  | stack => (right, stack)

/-- A named set, from after `[`: `:name:]`, with `^` before the name for its complement. -/
def readPosix (s : List Char) : Option (CharSet × Bool × List Char) :=
  match s with
  | ':' :: s =>
    let (negated, s) := match s with
      | '^' :: s => (true, s)
      | s => (false, s)
    match s.dropWhile (· != ':') with
    | ':' :: ']' :: rest =>
      (CharSet.posix? (String.ofList (s.takeWhile (· != ':')))).map (·, negated, rest)
    | _ => none
  | _ => none

/-- Hyphens at the start of a set, each of which stands for itself. -/
def readHyphens (f : Flags) (items : List Item) : Nat → List Char → List Item × List Char
  | 0, s => (items, s)
  | fuel + 1, s =>
    match s with
    | '-' :: rest => readHyphens f (⟨.single '-', 0⟩ :: items) fuel (f.skip rest)
    | s => (items, s)

/-- What follows an opening bracket: whether the set is negated, and characters that stand
    for themselves only here. -/
def readOpening (f : Flags) (s : List Char) : Option (Bool × List Item × List Char) :=
  let (negated, s) := match f.skip s with
    | '^' :: rest => (true, f.skip rest)
    | s => (false, s)
  let (items, s) := readHyphens f [] s.length s
  let (items, s) : List Item × List Char := match items, s with
    | [], ']' :: rest => ([⟨.single ']', 0⟩], f.skip rest)
    | items, s => (items, s)
  if s.isEmpty then none else some (negated, items, s)

/-- One end of a range, or an item of its own. -/
def readMember (f : Flags) : List Char → Option (Atom × List Char)
  | [] => none
  | '\\' :: s => Atom.read? f s
  | c :: s => some (.char c false, s)

/-- The character of an atom, as the flags admit it in a set. -/
def Atom.char? (f : Flags) : Atom → Option Char
  | .char c _ => if f.unicode || decide (c.toNat < 0x80) then some c else none
  | _ => none

/-- The set of an atom that stands alone. -/
def Atom.item? (f : Flags) (a : Atom) : Option CharSet :=
  match a with
  | .set s => some s
  | a => (a.char? f).map .single

/-- An item: a range, or what stands alone.  A hyphen before `]` or before another hyphen
    makes no range. -/
def readItem (f : Flags) (s : List Char) : Option (CharSet × List Char) :=
  match readMember f s with
  | none => none
  | some (a, s) =>
    let alone (s : List Char) : Option (CharSet × List Char) := (a.item? f).map (·, s)
    match f.skip s with
    | [] => none
    | '-' :: s =>
      if f.peek s == some ']' || f.peek s == some '-' then alone ('-' :: s)
      else
        match readMember f (f.skip s) with
        | none => none
        | some (b, s) =>
          match a.char? f, b.char? f with
          | some first, some last =>
            if first ≤ last then some (.range first last, s) else none
          | _, _ => none
    | s => alone s

/-- The rest of a set in brackets: `stack` holds what is open around the current items. -/
def readItems (f : Flags) : Nat → List BracketFrame → List Item → List Char →
    Option (Item × List Char)
  | 0, _, _, _ => none
  | fuel + 1, stack, items, s =>
    let operator (op : SetOperator) (rest : List Char) : Option (Item × List Char) :=
      let (left, stack) := closeOperator f (unite items) stack
      readItems f fuel (.operator op left :: stack) [] rest
    match f.skip s with
    | [] => none
    | '[' :: rest =>
      match readPosix rest with
      | some (set, negated, rest) =>
        match f.finish negated set with
        | some set => readItems f fuel stack (⟨set, 0⟩ :: items) rest
        | none => none
      | none =>
        match readOpening f rest with
        | some (negated, inner, rest) =>
          readItems f fuel (.bracket items negated :: stack) inner rest
        | none => none
    | ']' :: rest =>
      match closeOperator f (unite items) stack with
      | (inner, .bracket outer negated :: stack) =>
        match f.finish negated inner.set with
        | none => none
        | some set =>
          let item : Item := ⟨set, inner.depth + 1⟩
          if stack.isEmpty then some (item, rest)
          else readItems f fuel stack (item :: outer) rest
      | _ => none
    | '&' :: '&' :: rest => operator .inter rest
    | '-' :: '-' :: rest => operator .diff rest
    | '~' :: '~' :: rest => operator .symmDiff rest
    | s =>
      match readItem f s with
      | some (set, rest) => readItems f fuel stack (⟨set, 0⟩ :: items) rest
      | none => none

/-- A set in brackets, from just after its opening bracket. -/
def readBrackets (f : Flags) (s : List Char) : Option (Item × List Char) :=
  match readOpening f s with
  | some (negated, items, rest) =>
    readItems f (s.length + 1) [.bracket [] negated] items rest
  | none => none

end Telemetry.Pattern
