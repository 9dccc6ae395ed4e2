namespace Telemetry.Unicode

/-!
# Character ranges

A set of characters as a sorted array of disjoint ranges of code points.

* `Ranges.contains` — membership, by halving.
* `Ranges.merge` — union; `Ranges.complement` — all other code points.
* `Ranges.ofText` — read from a table row: the gap before each range, and its length less
  one after a dash, in hexadecimal.
-/

/-- Disjoint ranges of code points in ascending order, both ends included. -/
structure Ranges where
  bounds : Array (Nat × Nat)
deriving Repr, Inhabited

namespace Ranges

/-- All code points. -/
def all : Ranges := ⟨#[(0, 0x10FFFF)]⟩

/-- Membership within the ranges from index `low` up to, not including, index `high`. -/
def search (bounds : Array (Nat × Nat)) (n low high : Nat) : Bool :=
  if low < high then
    let mid := (low + high) / 2
    match bounds[mid]? with
    | none => false
    | some (first, last) =>
      if n < first then search bounds n low mid
      else if last < n then search bounds n (mid + 1) high
      else true
  else false
termination_by high - low

/-- Membership of a code point. -/
def contains (r : Ranges) (n : Nat) : Bool := search r.bounds n 0 r.bounds.size

/-- The ranges after those in `done` (last first), which they may touch or overlap. -/
def joinAfter (done : List (Nat × Nat)) : List (Nat × Nat) → List (Nat × Nat)
  | [] => done.reverse
  | (first, last) :: rest =>
    match done with
    | (first', last') :: done' =>
      if first ≤ last' + 1 then joinAfter ((first', max last last') :: done') rest
      else joinAfter ((first, last) :: done) rest
    | [] => joinAfter [(first, last)] rest

/-- The union of several sets. -/
def merge (sets : List Ranges) : Ranges :=
  let sorted := (sets.flatMap (·.bounds.toList)).mergeSort fun a b => decide (a.1 ≤ b.1)
  ⟨(joinAfter [] sorted).toArray⟩

/-- The gaps between ranges, from the code point `next` on. -/
def gapsFrom (next : Nat) : List (Nat × Nat) → List (Nat × Nat)
  | [] => if next ≤ 0x10FFFF then [(next, 0x10FFFF)] else []
  | (first, last) :: rest =>
    if next < first then (next, first - 1) :: gapsFrom (last + 1) rest
    else gapsFrom (last + 1) rest

/-- All code points that are not in the set. -/
def complement (r : Ranges) : Ranges := ⟨(gapsFrom 0 r.bounds.toList).toArray⟩

/-- The number of a lower-case hexadecimal numeral. -/
def hex (s : List Char) : Nat :=
  s.foldl (fun n c => 16 * n + (if c.isDigit then c.toNat - 48 else c.toNat - 87)) 0

/-- One token of a table row: a gap, and a length less one. -/
def token (s : List Char) : Nat × Nat :=
  (hex (s.takeWhile (· != '-')), hex ((s.dropWhile (· != '-')).drop 1))

/-- The tokens of a table row, which blanks and line breaks separate. -/
def tokens (row : String) : List (List Char) :=
  ((row.toList.map fun c => if c = '\n' then ' ' else c).splitOn ' ').filter (!·.isEmpty)

/-- The set of a table row. -/
def ofText (row : String) : Ranges :=
  let step (state : Nat × Array (Nat × Nat)) (piece : List Char) : Nat × Array (Nat × Nat) :=
    let (gap, more) := token piece
    let first := state.1 + gap
    (first + more + 1, state.2.push (first, first + more))
  ⟨((tokens row).foldl step (0, #[])).2⟩

/-- The set under a name in a table whose rows hold the spellings of a name and a set. -/
def find? (table : List (String × String)) (name : String) : Option Ranges :=
  (table.find? fun row => (row.1.splitOn " ").contains name).map fun row => ofText row.2

end Ranges

end Telemetry.Unicode
