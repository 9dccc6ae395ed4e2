import Telemetry.Error
import Telemetry.Pattern.Grammar
import Telemetry.Pattern.Search

namespace Telemetry

/-!
# Source names

The receiver groups records by source name.  The name comes from a record's tag: patterns
are tried in order, and the first that matches somewhere gives the text that it matches.
A tag that none matches is its own source name.

* `TagPattern` — a pattern and its program.
* `TagPatterns.ofTexts` — all patterns compiled; the first bad one is the error.
* `TagPatterns.resolve` — the source name of a tag.
-/

/-- A compiled pattern. -/
structure TagPattern where
  text : String
  program : Pattern.Program

namespace TagPattern

/-- Compiles a pattern, `none` when it is malformed or too large. -/
def ofText? (text : String) : Option TagPattern :=
  ((Pattern.Regex.ofText? text.toList).bind Pattern.Program.ofRegex?).map (⟨text, ·⟩)

/-- The text that the pattern matches in a tag. -/
def matched? (p : TagPattern) (tag : String) : Option String :=
  (p.program.find? tag.toList).map fun (start, stop) =>
    String.ofList ((tag.toList.drop start).take (stop - start))

end TagPattern

/-- Patterns in the order in which they are tried. -/
structure TagPatterns where
  patterns : List TagPattern

namespace TagPatterns

/-- No patterns. -/
def empty : TagPatterns := ⟨[]⟩

/-- Compiles patterns in order. -/
def compile : List String → Except Error (List TagPattern)
  | [] => .ok []
  | t :: ts =>
    match TagPattern.ofText? t with
    | none => .error (.invalidPattern t "malformed or too large")
    | some p => (compile ts).map (p :: ·)

/-- Compiles patterns; the error names the first that does not compile. -/
def ofTexts (texts : List String) : Except Error TagPatterns := (compile texts).map (⟨·⟩)

/-- The number of patterns. -/
def size (ps : TagPatterns) : Nat := ps.patterns.length

/-- There is no pattern. -/
def isEmpty (ps : TagPatterns) : Bool := ps.patterns.isEmpty

/-- The texts of the patterns, in order. -/
def texts (ps : TagPatterns) : List String := ps.patterns.map (·.text)

/-- The source name of a tag. -/
def resolve (ps : TagPatterns) (tag : String) : String :=
  (ps.patterns.findSome? (·.matched? tag)).getD tag

end TagPatterns

end Telemetry
