import Telemetry.Pattern.Unicode.Folding
import Telemetry.Pattern.Unicode.Category
import Telemetry.Pattern.Unicode.Property

namespace Telemetry.Pattern

open Unicode (Ranges)

/-!
# Character sets

What one position of a pattern admits.

* `CharSet` — expressions over sets of characters; `CharSet.contains` — membership.
* `digits`, `blanks`, `wordChars` — the three named sets.
* `CharSet.weight` — how many states of an automaton over bytes the set takes, roughly.
-/

/-- An expression that denotes a set of characters. -/
inductive CharSet where
  | empty
  | all
  | range (first last : Char)
  | table (r : Ranges)
  | complement (s : CharSet)
  | union (s t : CharSet)
  | inter (s t : CharSet)
  | diff (s t : CharSet)
  | symmDiff (s t : CharSet)
  /-- what differs from a member in case only -/
  | folded (s : CharSet)
  /-- the same for the 26 letters of ASCII -/
  | foldedAscii (s : CharSet)

namespace CharSet

instance : Inhabited CharSet := ⟨empty⟩

/-- The set of one character. -/
def single (c : Char) : CharSet := range c c

/-- The letter of the other case, for the 26 letters of ASCII. -/
def otherCase (c : Char) : Char :=
  if c.isUpper then c.toLower else if c.isLower then c.toUpper else c

/-- Membership. -/
def contains : CharSet → Char → Bool
  | empty, _ => false
  | all, _ => true
  | range first last, c => decide (first ≤ c) && decide (c ≤ last)
  | table r, c => r.contains c.toNat
  | complement s, c => !s.contains c
  | union s t, c => s.contains c || t.contains c
  | inter s t, c => s.contains c && t.contains c
  | diff s t, c => s.contains c && !t.contains c
  | symmDiff s t, c => s.contains c != t.contains c
  | folded s, c =>
    s.contains c || (Unicode.caseVariants c.toNat).any fun n => s.contains (Char.ofNat n)
  | foldedAscii s, c => s.contains c || s.contains (otherCase c)

/-- An estimate of the states that the set takes in an automaton over bytes. -/
def weight : CharSet → Nat
  | empty => 1
  | all => 9
  | range _ last => if last.toNat < 0x80 then 1 else 4
  | table r => 2 * r.bounds.size
  | complement s => s.weight + 8
  | union s t | inter s t | diff s t | symmDiff s t => s.weight + t.weight
  | folded s | foldedAscii s => s.weight + 1

/-! ### Named sets -/

/-- The decimal digits of all scripts. -/
def digits : Ranges := (Unicode.category? "nd").getD ⟨#[]⟩

/-- White space. -/
def blanks : Ranges := (Unicode.property? "whitespace").getD ⟨#[]⟩

/-- The letters of all scripts. -/
def letters : Ranges := (Unicode.property? "alphabetic").getD ⟨#[]⟩

/-- The numbers of all scripts. -/
def numbers : Ranges := (Unicode.category? "n").getD ⟨#[]⟩

/-- What words are made of: letters, marks, digits, connectors and joiners. -/
def wordChars : Ranges :=
  Ranges.merge ([letters, digits] ++
    [Unicode.category? "m", Unicode.category? "pc", Unicode.property? "joincontrol"].filterMap id)

/-- The sets that have a name between `[:` and `:]`; they are ASCII. -/
def posix : List (String × List (Char × Char)) :=
  [("alnum", [('0', '9'), ('A', 'Z'), ('a', 'z')]),
   ("alpha", [('A', 'Z'), ('a', 'z')]),
   ("ascii", [('\x00', '\x7F')]),
   ("blank", [('\t', '\t'), (' ', ' ')]),
   ("cntrl", [('\x00', '\x1F'), ('\x7F', '\x7F')]),
   ("digit", [('0', '9')]),
   ("graph", [('!', '~')]),
   ("lower", [('a', 'z')]),
   ("print", [(' ', '~')]),
   ("punct", [('!', '/'), (':', '@'), ('[', '\x60'), ('\x7b', '~')]),
   ("space", [('\t', '\r'), (' ', ' ')]),
   ("upper", [('A', 'Z')]),
   ("word", [('0', '9'), ('A', 'Z'), ('_', '_'), ('a', 'z')]),
   ("xdigit", [('0', '9'), ('A', 'F'), ('a', 'f')])]

/-- The union of ranges. -/
def ofRanges (rs : List (Char × Char)) : CharSet :=
  rs.foldr (fun r s => union (range r.1 r.2) s) empty

/-- The set of a name between `[:` and `:]`. -/
def posix? (name : String) : Option CharSet := (posix.lookup name).map ofRanges

end CharSet

end Telemetry.Pattern
