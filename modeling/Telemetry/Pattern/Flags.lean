import Telemetry.Pattern.CharSet
import Telemetry.Text.Blank

namespace Telemetry.Pattern

/-!
# Flags of a pattern

Flags change how the rest of the enclosing group is read.

* `Flags` — what may be set; `Flags.readList` — the flags between `(?` and `:` or `)`.
* `Flags.skip` — blanks and comments, where the flags make them insignificant.
* `Flags.finish` — a set as the flags want it: widened to both cases, then negated.
-/

/-- The flags in force at a place of a pattern. -/
structure Flags where
  ignoreCase : Bool := false
  multiLine : Bool := false
  dotTakesNewline : Bool := false
  swapGreed : Bool := false
  pairEndsLine : Bool := false
  ignoreBlanks : Bool := false
  unicode : Bool := true
deriving Repr

namespace Flags

/-- Sets the flag of a letter. -/
def set (f : Flags) (letter : Char) (value : Bool) : Option Flags :=
  match letter with
  | 'i' => some { f with ignoreCase := value }
  | 'm' => some { f with multiLine := value }
  | 's' => some { f with dotTakesNewline := value }
  | 'U' => some { f with swapGreed := value }
  | 'R' => some { f with pairEndsLine := value }
  | 'x' => some { f with ignoreBlanks := value }
  | 'u' => some { f with unicode := value }
  | _ => none

/-- Reads letters up to a colon or a closing parenthesis, which stays.  `seen` holds what
    was read (last first): a letter or the minus may stand there once, and a minus must
    have a letter behind it. -/
def readList (f : Flags) (value : Bool) (seen : List Char) :
    List Char → Option (Flags × List Char × List Char)
  | [] => none
  | c :: s =>
    if c = ':' || c = ')' then
      if seen.head? == some '-' then none else some (f, seen, c :: s)
    else if seen.contains c then none
    else if c = '-' then readList f false (c :: seen) s
    else
      match f.set c value with
      | some f => readList f value (c :: seen) s
      | none => none

/-- White space of any script. -/
def isBlank (c : Char) : Bool := Text.isBlank c

/-- What follows blanks and comments; a comment ends with its line. -/
def dropBlanks (inComment : Bool) : List Char → List Char
  | [] => []
  | c :: s =>
    if inComment then dropBlanks (c != '\n') s
    else if isBlank c then dropBlanks false s
    else if c = '#' then dropBlanks true s
    else c :: s

/-- What follows the insignificant part of the text. -/
def skip (f : Flags) (s : List Char) : List Char := if f.ignoreBlanks then dropBlanks false s else s

/-- The character after the one that was just read, blanks aside, as far as one look ahead
    tells: it sees past one mark of a comment but not past the comment. -/
def peek (f : Flags) (s : List Char) : Option Char :=
  if f.ignoreBlanks then
    let rest := match s.dropWhile isBlank with
      | '#' :: t => t.dropWhile isBlank
      | t => t
    rest.head?.or s.head?
  else s.head?

/-- A set widened to both cases if the flags ask for it. -/
def widen (f : Flags) (s : CharSet) : CharSet :=
  if f.ignoreCase then if f.unicode then .folded s else .foldedAscii s else s

/-- The complement of a set.  Over bytes a complement is not made of whole characters and
    is refused. -/
def negate (f : Flags) (s : CharSet) : Option CharSet :=
  if f.unicode then some (.complement s) else none

/-- A set as the flags want it: widened, then negated on request. -/
def finish (f : Flags) (negated : Bool) (s : CharSet) : Option CharSet :=
  if negated then f.negate (f.widen s) else some (f.widen s)

end Flags

end Telemetry.Pattern
