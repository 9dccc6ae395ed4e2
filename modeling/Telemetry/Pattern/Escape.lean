import Telemetry.Pattern.Flags
import Telemetry.Pattern.Regex
import Telemetry.Pattern.Unicode.Script
import Telemetry.Pattern.Unicode.ScriptExtensions

namespace Telemetry.Pattern

open Unicode (Ranges)

/-!
# Escapes

What may follow a backslash: a character that stands for itself, a control character, a
code point in hexadecimal, a named set, or a condition on the position.

* `Atom` — what an escape means.
* `namedSet?` — the set under the name of a property.
* `Atom.read?` — an escape, from just after the backslash.
-/

/-- The meaning of an escape. -/
inductive Atom where
  /-- a character; `byte` if it was written as two hexadecimal digits -/
  | char (c : Char) (byte : Bool)
  | set (s : CharSet)
  | look (l : Look)

/-! ### Named sets -/

/-- The spelling under which a name is looked up: case, blanks, `_`, `-` and a leading `is`
    do not matter. -/
def normalName (name : List Char) : String :=
  let lower := name.map Char.toLower
  let strip (s : List Char) : List Char :=
    s.filter fun c => c != ' ' && c != '_' && c != '-' && decide (c.toNat < 0x80)
  match lower with
  | 'i' :: 's' :: rest =>
    if strip rest == ['c'] then "isc" else String.ofList (strip rest)
  | _ => String.ofList (strip lower)

/-- The set of a lone name: a property, a general category or a script.  Three names are
    those of a property and of a category; the category is meant. -/
def lonelySet? (name : String) : Option Ranges :=
  if name == "cf" || name == "sc" || name == "lc" then Unicode.category? name
  else
    (Unicode.property? name).or ((Unicode.category? name).or (Unicode.script? name))

/-- The set of the value of a property with values. -/
def valueSet? (property value : String) : Option Ranges :=
  if property == "gc" || property == "generalcategory" then Unicode.category? value
  else if property == "sc" || property == "script" then Unicode.script? value
  else if property == "scx" || property == "scriptextensions" then
    Unicode.scriptExtension? value
  else none

/-- The text before and after the first place where `sign` stands. -/
def cutAt (sign : List Char) (before : List Char) : List Char → Option (List Char × List Char)
  | [] => none
  | c :: s =>
    if sign.isPrefixOf (c :: s) then some (before.reverse, (c :: s).drop sign.length)
    else cutAt sign (c :: before) s

/-- The set of the text between the braces of a named set, and whether its operator negates. -/
def namedSet? (text : List Char) : Option (Ranges × Bool) :=
  let valued (r : List Char × List Char) : Option Ranges :=
    valueSet? (normalName r.1) (normalName r.2)
  match cutAt ['!', '='] [] text with
  | some r => (valued r).map (·, true)
  | none =>
    match (cutAt [':'] [] text).or (cutAt ['='] [] text) with
    | some r => (valued r).map (·, false)
    | none => (lonelySet? (normalName text)).map (·, false)

/-- The text up to the closing brace, insignificant blanks left out. -/
def readBraced (f : Flags) (done : List Char) (fuel : Nat) (s : List Char) :
    Option (List Char × List Char) :=
  match fuel, f.skip s with
  | _, [] => none
  | 0, _ => none
  | _, '}' :: rest => some (done.reverse, rest)
  | fuel + 1, c :: rest => readBraced f (c :: done) fuel rest

/-- A named set, from after the letter `p`; `negated` if the letter is upper case. -/
def readNamed (f : Flags) (negated : Bool) (s : List Char) : Option (Atom × List Char) :=
  let close (r : Ranges) (negated : Bool) (rest : List Char) : Option (Atom × List Char) :=
    if f.unicode then (f.finish negated (.table r)).map fun s => (.set s, rest) else none
  match f.skip s with
  | [] => none
  | '{' :: s =>
    match readBraced f [] s.length s with
    | none => none
    | some (text, rest) =>
      match namedSet? text with
      | some (r, flip) => close r (negated != flip) rest
      | none => none
  | c :: s =>
    match lonelySet? (normalName [c]) with
    | some r => close r negated (f.skip s)
    | none => none

/-! ### Hexadecimal -/

/-- The character with a code point, `none` for surrogates and beyond the last one. -/
def charOf? (n : Nat) : Option Char :=
  if n < 0xD800 || (0xDFFF < n && n < 0x110000) then some (Char.ofNat n) else none

/-- The value of a hexadecimal digit. -/
def hexDigit? (c : Char) : Option Nat :=
  if c.isDigit then some (c.toNat - 48)
  else if 'a' ≤ c && c ≤ 'f' then some (c.toNat - 87)
  else if 'A' ≤ c && c ≤ 'F' then some (c.toNat - 55)
  else none

/-- The value of a hexadecimal numeral of any length. -/
def hexValue? (s : List Char) : Option Nat :=
  s.foldlM (fun n c => (hexDigit? c).map (16 * n + ·)) 0

/-- A fixed number of hexadecimal digits, the last of them followed by what may be skipped. -/
def readDigits (f : Flags) (value : Nat) : Nat → List Char → Option (Nat × List Char)
  | 0, s => some (value, s)
  | n + 1, s =>
    match s with
    | [] => none
    | c :: rest =>
      match hexDigit? c with
      | some d => readDigits f (16 * value + d) n (f.skip rest)
      | none => none

/-- A code point, from after the letter that announces it. -/
def readHex (f : Flags) (digits : Nat) (s : List Char) : Option (Atom × List Char) :=
  match f.skip s with
  | [] => none
  | '{' :: s =>
    match readBraced f [] s.length s with
    | some (text, rest) =>
      if text.isEmpty then none
      else ((hexValue? text).bind charOf?).map fun c => (.char c false, f.skip rest)
    | none => none
  | c :: s =>
    match readDigits f 0 digits (c :: s) with
    | some (n, rest) => (charOf? n).map fun c => (.char c (digits == 2), rest)
    | none => none

/-! ### Word boundaries -/

/-- A letter or a hyphen, which the name of a boundary is made of. -/
def isBoundaryChar (c : Char) : Bool := c.isAlpha || c == '-'

/-- The characters of a boundary's name, with what may be skipped after each. -/
def readBoundaryName (f : Flags) (done : List Char) : Nat → List Char → List Char × List Char
  | 0, s => (done.reverse, s)
  | _, [] => (done.reverse, [])
  | fuel + 1, c :: s =>
    if isBoundaryChar c then readBoundaryName f (c :: done) fuel (f.skip s)
    else (done.reverse, c :: s)

/-- A boundary, from after the letter `b`.  A brace that no name follows belongs to a
    repetition and is left. -/
def readBoundary (f : Flags) (s : List Char) : Option (Atom × List Char) :=
  let plain : Option (Atom × List Char) := some (.look (.wordBoundary !f.unicode), s)
  match s with
  | '{' :: t =>
    match f.skip t with
    | [] => none
    | c :: u =>
      if isBoundaryChar c then
        match readBoundaryName f [] (u.length + 1) (c :: u) with
        | (name, '}' :: rest) =>
          match String.ofList name with
          | "start" => some (.look (.wordStart !f.unicode), rest)
          | "end" => some (.look (.wordEnd !f.unicode), rest)
          | "start-half" => some (.look (.wordStartHalf !f.unicode), rest)
          | "end-half" => some (.look (.wordEndHalf !f.unicode), rest)
          | _ => none
        | _ => none
      else plain
  | _ => plain

/-! ### Escapes -/

/-- A shorthand set: the digits, blanks or word characters of all scripts or of ASCII. -/
def readShorthand (f : Flags) (table : Ranges) (ascii : String) (negated : Bool)
    (rest : List Char) : Option (Atom × List Char) :=
  let s := if f.unicode then some (.table table) else CharSet.posix? ascii
  (s.bind fun s => if negated then f.negate s else some s).map fun s => (.set s, rest)

/-- The characters that have a meaning in patterns, inside sets or outside. -/
def isMeta (c : Char) : Bool :=
  ['\\', '.', '+', '*', '?', '(', ')', '|', '[', ']', '\x7b', '\x7d', '^', '$', '#', '&', '-',
    '~'].contains c

/-- The characters that may be escaped without need. -/
def isFree (c : Char) : Bool :=
  decide (c.toNat < 0x80) && !c.isAlphanum && c != '<' && c != '>'

/-- An escape, from just after the backslash. -/
def Atom.read? (f : Flags) : List Char → Option (Atom × List Char)
  | [] => none
  | c :: s =>
    match c with
    | 'x' => readHex f 2 s
    | 'u' => readHex f 4 s
    | 'U' => readHex f 8 s
    | 'p' => readNamed f false s
    | 'P' => readNamed f true s
    | 'd' => readShorthand f CharSet.digits "digit" false s
    | 'D' => readShorthand f CharSet.digits "digit" true s
    | 's' => readShorthand f CharSet.blanks "space" false s
    | 'S' => readShorthand f CharSet.blanks "space" true s
    | 'w' => readShorthand f CharSet.wordChars "word" false s
    | 'W' => readShorthand f CharSet.wordChars "word" true s
    | 'a' => some (.char '\x07' false, s)
    | 'f' => some (.char '\x0C' false, s)
    | 't' => some (.char '\t' false, s)
    | 'n' => some (.char '\n' false, s)
    | 'r' => some (.char '\r' false, s)
    | 'v' => some (.char '\x0B' false, s)
    | 'A' => some (.look .textStart, s)
    | 'z' => some (.look .textEnd, s)
    | 'b' => readBoundary f s
    | 'B' => some (.look (.notWordBoundary !f.unicode), s)
    | '<' => some (.look (.wordStart !f.unicode), s)
    | '>' => some (.look (.wordEnd !f.unicode), s)
    | c => if isMeta c || isFree c then some (.char c false, s) else none

end Telemetry.Pattern
