import Telemetry.Pattern.CharSet

namespace Telemetry.Pattern

/-!
# Regular expressions

* `Look` — a condition on the characters before and after a position.
* `Regex` — expressions; `Regex.isEmptyWide` — those that never take a character.
* `Regex.size` — the number of instructions into which an expression unfolds.
-/

/-- A condition on a position. -/
inductive Look where
  | textStart
  | textEnd
  | lineStart
  | lineEnd
  /-- lines end with a line feed, a carriage return, or the pair of them -/
  | lineStartPair
  | lineEndPair
  | wordBoundary (ascii : Bool)
  | notWordBoundary (ascii : Bool)
  | wordStart (ascii : Bool)
  | wordEnd (ascii : Bool)
  | wordStartHalf (ascii : Bool)
  | wordEndHalf (ascii : Bool)
deriving DecidableEq, Repr

namespace Look

/-- A word character, or the edge of the text, which is none. -/
def isWord (ascii : Bool) : Option Char → Bool
  | none => false
  | some c => if ascii then c.isAlphanum || c == '_' else CharSet.wordChars.contains c.toNat

/-- The condition at a position with the given neighbours. -/
def holds (before after : Option Char) : Look → Bool
  | textStart => before.isNone
  | textEnd => after.isNone
  | lineStart => before.isNone || before == some '\n'
  | lineEnd => after.isNone || after == some '\n'
  | lineStartPair =>
    before.isNone || before == some '\n' || (before == some '\r' && after != some '\n')
  | lineEndPair =>
    after.isNone || after == some '\r' || (after == some '\n' && before != some '\r')
  | wordBoundary ascii => isWord ascii before != isWord ascii after
  | notWordBoundary ascii => isWord ascii before == isWord ascii after
  | wordStart ascii => !isWord ascii before && isWord ascii after
  | wordEnd ascii => isWord ascii before && !isWord ascii after
  | wordStartHalf ascii => !isWord ascii before
  | wordEndHalf ascii => !isWord ascii after

end Look

/-- A regular expression. -/
inductive Regex where
  | empty
  | chars (s : CharSet)
  | look (l : Look)
  | cat (parts : List Regex)
  | alt (branches : List Regex)
  /-- at least `least` times, at most `most` times, as often as possible if `greedy` -/
  | rep (r : Regex) (least : Nat) (most : Option Nat) (greedy : Bool)

namespace Regex

instance : Inhabited Regex := ⟨empty⟩

mutual

/-- Never takes a character. -/
def isEmptyWide : Regex → Bool
  | empty | look _ => true
  | chars _ => false
  | cat parts => allEmptyWide parts
  | alt branches => allEmptyWide branches
  | rep r _ most _ => most == some 0 || r.isEmptyWide

/-- None of them takes a character. -/
def allEmptyWide : List Regex → Bool
  | [] => true
  | r :: rs => r.isEmptyWide && allEmptyWide rs

end

/-- The counts of a repetition of `r`: what takes no character need not be repeated. -/
def counts (r : Regex) (least : Nat) (most : Option Nat) : Nat × Option Nat :=
  if r.isEmptyWide then (min least 1, some (min (most.getD 1) 1)) else (least, most)

mutual

/-- The number of instructions into which an expression unfolds. -/
def size : Regex → Nat
  | empty => 1
  | chars s => s.weight
  | look _ => 1
  | cat parts => sumSizes parts
  | alt branches => sumSizes branches + 1
  | rep r least most _ =>
    match counts r least most with
    | (n, none) => r.size * max n 1 + 1
    | (n, some m) => r.size * m + (m - n) + 1

/-- The sum of the sizes. -/
def sumSizes : List Regex → Nat
  | [] => 0
  | r :: rs => r.size + sumSizes rs

end

end Regex

end Telemetry.Pattern
