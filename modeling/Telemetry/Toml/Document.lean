namespace Telemetry.Toml

/-!
# Flat documents

A flat TOML document is a list of keys with their values, in the order of writing.  It has
neither tables nor dotted keys, and its values are texts, integers, booleans and lists of
texts.
-/

/-- A value of a flat document. -/
inductive Value where
  | text (s : String)
  | integer (n : Int)
  | boolean (b : Bool)
  | texts (xs : List String)
deriving DecidableEq, Repr

/-- A flat document. -/
abbrev Document := List (String × Value)

/-- The integers that a document can hold. -/
def fitsInteger (n : Int) : Bool :=
  decide (-0x8000000000000000 ≤ n) && decide (n < 0x8000000000000000)

/-! ### Characters -/

/-- Blanks may stand around keys and values. -/
def isBlank (c : Char) : Bool := c == ' ' || c == '\t'

/-- Control characters, the tab and the line feed apart. -/
def isControl (c : Char) : Bool :=
  (decide (c.toNat < 0x20) && c != '\t' && c != '\n') || c.toNat == 0x7f

/-- Characters that may stand in comments and, unless they have a meaning there, in
    texts. -/
def isPlain (c : Char) : Bool := !isControl c && c != '\n'

/-- Characters of a key without quotes. -/
def isKeyChar (c : Char) : Bool := c.isAlphanum || c == '_' || c == '-'

end Telemetry.Toml
