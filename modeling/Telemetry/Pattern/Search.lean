import Telemetry.Pattern.Program

namespace Telemetry.Pattern

/-!
# Searching

All ways through a program are followed at once, one character at a time, in the order of
preference.  An instruction that is reached a second time at one position is not followed
again, because the first way to it is preferred.  The match that begins leftmost wins, and
of those the preferred one.

* `follow` — the ways on from some threads, up to where they need a character.
* `Program.find?` — where the match begins and ends.
-/

/-- A way through the program: where it stands, and where it began in the text. -/
structure Thread where
  state : Nat
  start : Nat
deriving Repr

/-- The threads that wait for a character, in order of preference, and where the match
    began that ends here, if there is one. -/
structure Front where
  waiting : List (CharSet × Nat × Nat)
  found : Option Nat

/-- Follows the threads of the stack, the first one first.  `seen` holds, for each
    instruction, the stamp of the last position at which it was reached. -/
def follow (code : Array Instruction) (before after : Option Char) (stamp : Nat) :
    Nat → List Thread → Array Nat → List (CharSet × Nat × Nat) → Front × Array Nat
  | 0, _, seen, done => (⟨done.reverse, none⟩, seen)
  | _ + 1, [], seen, done => (⟨done.reverse, none⟩, seen)
  | fuel + 1, t :: stack, seen, done =>
    if seen[t.state]? == some stamp then follow code before after stamp fuel stack seen done
    else
      let seen := seen.setIfInBounds t.state stamp
      match code[t.state]? with
      | none | some .fail => follow code before after stamp fuel stack seen done
      | some (.take s next) =>
        follow code before after stamp fuel stack seen ((s, next, t.start) :: done)
      | some (.split first second) =>
        follow code before after stamp fuel
          ({ t with state := first } :: { t with state := second } :: stack) seen done
      | some (.check l next) =>
        if l.holds before after then
          follow code before after stamp fuel ({ t with state := next } :: stack) seen done
        else follow code before after stamp fuel stack seen done
      | some .finish => (⟨done.reverse, some t.start⟩, seen)

namespace Program

/-- The ways on from some threads at a position: each instruction is followed once and puts
    at most two threads on the stack. -/
def advance (p : Program) (before after : Option Char) (stamp : Nat) (threads : List Thread)
    (seen : Array Nat) : Front × Array Nat :=
  follow p.code before after stamp (threads.length + 2 * p.code.size + 1) threads seen []

/-- The threads that can take the character. -/
def taking (c : Char) (waiting : List (CharSet × Nat × Nat)) : List Thread :=
  waiting.filterMap fun (s, next, start) =>
    if s.contains c then some ⟨next, start⟩ else none

/-- Searches from a position: `threads` are the ways that have come this far, `best` is
    the match that they still could replace.  A new way begins here while there is none. -/
def findFrom (p : Program) (before : Option Char) (here : Nat) (threads : List Thread)
    (best : Option (Nat × Nat)) (seen : Array Nat) : List Char → Option (Nat × Nat)
  | [] =>
    let threads := if best.isNone then threads ++ [⟨p.entry, here⟩] else threads
    match (p.advance before none (here + 1) threads seen).1.found with
    | some start => some (start, here)
    | none => best
  | c :: rest =>
    let threads := if best.isNone then threads ++ [⟨p.entry, here⟩] else threads
    let (front, seen) := p.advance before (some c) (here + 1) threads seen
    let best := match front.found with
      | some start => some (start, here)
      | none => best
    let threads := taking c front.waiting
    if threads.isEmpty && best.isSome then best
    else findFrom p (some c) (here + 1) threads best seen rest

/-- Where the match in a text begins and ends. -/
def find? (p : Program) (text : List Char) : Option (Nat × Nat) :=
  findFrom p none 0 [] none (Array.replicate p.code.size 0) text

end Program

end Telemetry.Pattern
