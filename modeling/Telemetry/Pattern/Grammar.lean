import Telemetry.Pattern.Brackets

namespace Telemetry.Pattern

/-!
# Grammar of patterns

A pattern is read in one pass with a stack of open groups.  Flags take effect while the
pattern is read, so what comes out is a plain expression.

* `Part` — an expression with the depth of its nesting.
* `State`, `State.step?` — what has been read, and one more construct.
* `Regex.ofText?` — a whole pattern.
-/

/-- The nesting that a pattern may have. -/
def nestingLimit : Nat := 250

/-- A part of a concatenation.  A part that only sets flags cannot be repeated. -/
structure Part where
  regex : Regex
  depth : Nat
  repeatable : Bool := true

/-- The expression of parts that follow each other (last first). -/
def concatenate : List Part → Part
  | [] => { regex := .empty, depth := 0 }
  | [p] => { p with repeatable := true }
  | ps =>
    { regex := .cat (ps.foldl (fun rs p => p.regex :: rs) [])
      depth := ps.foldl (fun d p => max d p.depth) 0 + 1 }

/-- The expression of branches (last first) of which one is taken. -/
def alternate : List Part → Part
  | [] => { regex := .empty, depth := 0 }
  | [p] => p
  | ps =>
    { regex := .alt (ps.foldl (fun rs p => p.regex :: rs) [])
      depth := ps.foldl (fun d p => max d p.depth) 0 + 1 }

/-- What was read before a group was opened, and the flags to return to. -/
structure OpenGroup where
  flags : Flags
  branches : List Part
  parts : List Part

/-- What has been read of a pattern. -/
structure State where
  flags : Flags
  names : List String
  stack : List OpenGroup
  branches : List Part
  parts : List Part

namespace State

/-- Nothing read yet. -/
def start : State := ⟨{}, [], [], [], []⟩

/-- Appends a part. -/
def add (st : State) (regex : Regex) (depth : Nat) : State :=
  { st with parts := { regex := regex, depth := depth } :: st.parts }

/-- The expression of the innermost open group so far. -/
def body (st : State) : Part := alternate (concatenate st.parts :: st.branches)

/-- Opens a group inside which the given flags hold. -/
def openGroup (st : State) (inside : Flags) : State :=
  { st with
    flags := inside
    stack := ⟨st.flags, st.branches, st.parts⟩ :: st.stack
    branches := []
    parts := [] }

/-- Closes the innermost group. -/
def closeGroup? (st : State) : Option State :=
  match st.stack with
  | [] => none
  | g :: stack =>
    let inner := st.body
    if inner.depth + 1 ≤ nestingLimit then
      some { st with
        flags := g.flags
        stack := stack
        branches := g.branches
        parts := { regex := inner.regex, depth := inner.depth + 1 } :: g.parts }
    else none

/-- Repeats the last part. -/
def repeat? (st : State) (least : Nat) (most : Option Nat) (lazily : Bool) : Option State :=
  match st.parts with
  | [] => none
  | p :: parts =>
    if p.repeatable && decide (p.depth + 1 ≤ nestingLimit) then
      let greedy := lazily == st.flags.swapGreed
      some { st with
        parts := { regex := .rep p.regex least most greedy, depth := p.depth + 1 } :: parts }
    else none

end State

/-! ### Groups -/

/-- A character that may stand in the name of a group. -/
def isNameChar (first : Bool) (c : Char) : Bool :=
  c == '_' || CharSet.letters.contains c.toNat ||
    (!first && (c == '.' || c == '[' || c == ']' || CharSet.numbers.contains c.toNat))

/-- The name of a group, with the `>` that ends it. -/
def readName (s : List Char) : Option (String × List Char) :=
  match s.dropWhile (· != '>') with
  | '>' :: rest =>
    match s.takeWhile (· != '>') with
    | [] => none
    | c :: cs =>
      if isNameChar true c && cs.all (isNameChar false) then
        some (String.ofList (c :: cs), rest)
      else none
  | _ => none

/-- A group with a name, which no other group has. -/
def openNamed (st : State) (s : List Char) : Option (State × List Char) :=
  match readName s with
  | some (name, rest) =>
    if st.names.contains name then none
    else some ({ st.openGroup st.flags with names := name :: st.names }, rest)
  | none => none

/-- A group or a change of flags, from just after the opening parenthesis. -/
def readGroup (st : State) (s : List Char) : Option (State × List Char) :=
  match st.flags.skip s with
  | '?' :: '=' :: _ | '?' :: '!' :: _ | '?' :: '<' :: '=' :: _ | '?' :: '<' :: '!' :: _ => none
  | '?' :: 'P' :: '<' :: s => openNamed st s
  | '?' :: '<' :: s => openNamed st s
  | '?' :: s =>
    match st.flags.readList true [] s with
    | some (flags, seen, ')' :: rest) =>
      if seen.isEmpty then none
      else
        let part : Part := { regex := .empty, depth := 0, repeatable := false }
        some ({ st with flags := flags, parts := part :: st.parts }, rest)
    | some (flags, _, ':' :: rest) => some (st.openGroup flags, rest)
    | _ => none
  | s => some (st.openGroup st.flags, s)

/-! ### Repetitions -/

/-- A decimal count that fits 32 bits, blanks around it ignored, and blanks inside it where
    they are insignificant. -/
def readDecimal (f : Flags) (s : List Char) : Option (Nat × List Char) :=
  let rec digits (done : List Char) : Nat → List Char → List Char × List Char
    | 0, s => (done.reverse, s)
    | _, [] => (done.reverse, [])
    | fuel + 1, c :: s =>
      if c.isDigit then digits (c :: done) fuel (f.skip s) else (done.reverse, c :: s)
  let rec blanks : Nat → List Char → List Char
    | 0, s => s
    | _, [] => []
    | fuel + 1, c :: s => if Flags.isBlank c then blanks fuel (f.skip s) else c :: s
  let s := s.dropWhile Flags.isBlank
  let (ds, s) := digits [] s.length s
  let n := Nat.ofDigitChars 10 ds 0
  if ds.isEmpty || decide (0x100000000 ≤ n) then none else some (n, blanks s.length s)

/-- A question mark that makes a repetition lazy. -/
def readLazily : List Char → Bool × List Char
  | '?' :: s => (true, s)
  | s => (false, s)

/-- A repetition with counts, from just after its opening brace. -/
def readCounts (f : Flags) (s : List Char) :
    Option (Nat × Option Nat × Bool × List Char) :=
  let close (least : Nat) (most : Option Nat) (s : List Char) :
      Option (Nat × Option Nat × Bool × List Char) :=
    match s with
    | '}' :: s =>
      let (lazily, rest) := readLazily (f.skip s)
      if most.all (least ≤ ·) then some (least, most, lazily, rest) else none
    | _ => none
  match readDecimal f (f.skip s) with
  | none => none
  | some (least, ',' :: s) =>
    match f.skip s with
    | '}' :: s => close least none ('}' :: s)
    | s =>
      match readDecimal f s with
      | some (most, s) => close least (some most) s
      | none => none
  | some (least, s) => close least (some least) s

/-! ### One construct -/

/-- What a point stands for. -/
def pointSet? (f : Flags) : Option CharSet :=
  if !f.unicode then none
  else if f.dotTakesNewline then some .all
  else if f.pairEndsLine then
    some (.complement (.union (.single '\r') (.single '\n')))
  else some (.complement (.single '\n'))

/-- The start of the text, or of a line. -/
def startLook (f : Flags) : Look :=
  if f.multiLine then if f.pairEndsLine then .lineStartPair else .lineStart else .textStart

/-- The end of the text, or of a line. -/
def endLook (f : Flags) : Look :=
  if f.multiLine then if f.pairEndsLine then .lineEndPair else .lineEnd else .textEnd

/-- The set of a character that stands for itself. -/
def charSet? (f : Flags) (c : Char) (byte : Bool) : Option CharSet :=
  if !f.unicode && byte && decide (0x80 ≤ c.toNat) then none
  else if f.unicode || c.isAlpha then some (f.widen (.single c))
  else some (.single c)

/-- Appends what an atom means. -/
def State.addAtom? (st : State) : Atom → Option State
  | .char c byte => (charSet? st.flags c byte).map fun s => st.add (.chars s) 0
  | .set s => some (st.add (.chars s) 0)
  | .look l => some (st.add (.look l) 0)

/-- One construct of a pattern, read from its first character `c` and what follows. -/
def State.step? (st : State) (c : Char) (s : List Char) : Option (State × List Char) :=
  match c with
  | '(' => readGroup st s
  | ')' => st.closeGroup?.map (·, s)
  | '|' =>
    some ({ st with branches := concatenate st.parts :: st.branches, parts := [] }, s)
  | '[' => (readBrackets st.flags s).map fun (i, rest) => (st.add (.chars i.set) i.depth, rest)
  | '?' => let (lazily, s) := readLazily s; (st.repeat? 0 (some 1) lazily).map (·, s)
  | '*' => let (lazily, s) := readLazily s; (st.repeat? 0 none lazily).map (·, s)
  | '+' => let (lazily, s) := readLazily s; (st.repeat? 1 none lazily).map (·, s)
  | '\x7b' =>
    match readCounts st.flags s with
    | some (least, most, lazily, rest) => (st.repeat? least most lazily).map (·, rest)
    | none => none
  | '\\' =>
    match Atom.read? st.flags s with
    | some (a, rest) => (st.addAtom? a).map (·, rest)
    | none => none
  | '.' => (pointSet? st.flags).map fun set => (st.add (.chars set) 0, s)
  | '^' => some (st.add (.look (startLook st.flags)) 0, s)
  | '$' => some (st.add (.look (endLook st.flags)) 0, s)
  | c => (st.addAtom? (.char c false)).map (·, s)

/-- Reads constructs to the end of the pattern, each of which takes a character. -/
def State.run? : Nat → State → List Char → Option State
  | 0, st, s => if (st.flags.skip s).isEmpty then some st else none
  | fuel + 1, st, s =>
    match st.flags.skip s with
    | [] => some st
    | c :: rest =>
      match st.step? c rest with
      | some (st, rest) => State.run? fuel st rest
      | none => none

/-- The expression of a pattern, `none` when it is malformed or nests too deep. -/
def Regex.ofText? (s : List Char) : Option Regex :=
  match State.start.run? s.length s with
  | some st =>
    let whole := st.body
    if st.stack.isEmpty && decide (whole.depth ≤ nestingLimit) then some whole.regex else none
  | none => none

end Telemetry.Pattern
