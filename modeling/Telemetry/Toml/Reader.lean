import Telemetry.Toml.Text

namespace Telemetry.Toml

/-!
# Reading documents

* `readValue?` — a value, and what follows it.
* `readEntry?` — a key and its value, up to the end of the line.
* `read?` — a document; no key may stand there twice.
-/

/-! ### Gaps -/

/-- Skips blanks. -/
def skipBlanks (s : List Char) : List Char := s.dropWhile isBlank

/-- Reads a line end. -/
def lineEnd? : List Char → Option (List Char)
  | '\n' :: rest => some rest
  | '\r' :: '\n' :: rest => some rest
  | _ => none

/-- Skips a comment. -/
def skipComment : List Char → List Char
  | '#' :: rest => rest.dropWhile isPlain
  | s => s

/-- Reads the end of a line: blanks, a comment, and a line end or the end of the text. -/
def endOfLine? (s : List Char) : Option (List Char) :=
  match skipComment (skipBlanks s) with
  | [] => some []
  | s => lineEnd? s

/-- Skips blanks, line ends, and comments up to their line end. -/
def skipGaps (inComment : Bool) : List Char → Option (List Char)
  | [] => some []
  | c :: rest =>
    if endsLine c rest then skipGaps (inComment && c == '\r') rest
    else if inComment then if isPlain c then skipGaps true rest else none
    else if isBlank c then skipGaps false rest
    else if c = '#' then skipGaps true rest
    else some (c :: rest)

/-! ### Integers -/

/-- The value of a digit in a base up to sixteen. -/
def digit? (base : Nat) (c : Char) : Option Nat := (hexValue? c).filter (· < base)

/-- Reads digits, after a value so far.  An underscore may stand between two digits;
    `isOpen` tells that a digit must follow. -/
def readDigits (base value : Nat) (isOpen : Bool) : List Char → Option (Nat × List Char)
  | [] => if isOpen then none else some (value, [])
  | c :: rest =>
    match digit? base c with
    | some d => readDigits base (value * base + d) false rest
    | none =>
      if isOpen then none
      else if c = '_' then readDigits base value true rest
      else some (value, c :: rest)

/-- Reads a number in base ten, which does not begin with a superfluous zero. -/
def readDecimal? : List Char → Option (Nat × List Char)
  | '0' :: rest => some (0, rest)
  | s => readDigits 10 0 true s

/-- Reads an integer, whether it fits or not. -/
def readNumber? : List Char → Option (Int × List Char)
  | '0' :: 'x' :: rest => (readDigits 16 0 true rest).map fun (n, rest) => (n, rest)
  | '0' :: 'o' :: rest => (readDigits 8 0 true rest).map fun (n, rest) => (n, rest)
  | '0' :: 'b' :: rest => (readDigits 2 0 true rest).map fun (n, rest) => (n, rest)
  | '+' :: rest => (readDecimal? rest).map fun (n, rest) => (n, rest)
  | '-' :: rest => (readDecimal? rest).map fun (n, rest) => (-n, rest)
  | s => (readDecimal? s).map fun (n, rest) => (n, rest)

/-- Reads an integer that fits. -/
def readInteger? (s : List Char) : Option (Int × List Char) :=
  (readNumber? s).filter fun p => fitsInteger p.1

/-! ### Values -/

/-- Reads the texts of a list up to its bracket, after those in `done` (last first). -/
def readTexts (done : List String) : Nat → List Char → Option (List String × List Char)
  | 0, _ => none
  | fuel + 1, s =>
    match skipGaps false s with
    | none => none
    | some (']' :: rest) => some (done.reverse, rest)
    | some s =>
      match readText? s with
      | none => none
      | some (t, rest) =>
        match skipGaps false rest with
        | some (']' :: rest) => some ((String.ofList t :: done).reverse, rest)
        | some (',' :: rest) => readTexts (String.ofList t :: done) fuel rest
        | _ => none

/-- Reads a value. -/
def readValue? (s : List Char) : Option (Value × List Char) :=
  match s with
  | '[' :: rest => (readTexts [] s.length rest).map fun (xs, rest) => (.texts xs, rest)
  | 't' :: 'r' :: 'u' :: 'e' :: rest => some (.boolean true, rest)
  | 'f' :: 'a' :: 'l' :: 's' :: 'e' :: rest => some (.boolean false, rest)
  | c :: _ =>
    if c = '"' || c = '\'' then
      (readText? s).map fun (t, rest) => (.text (String.ofList t), rest)
    else (readInteger? s).map fun (n, rest) => (.integer n, rest)
  | [] => none

/-! ### Documents -/

/-- Reads a key, in quotes or without them. -/
def readKey? (s : List Char) : Option (List Char × List Char) :=
  match s with
  | c :: _ =>
    if c = '"' || c = '\'' then readLine? s
    else if isKeyChar c then some (s.takeWhile isKeyChar, s.dropWhile isKeyChar)
    else none
  | [] => none

/-- Reads a key with its value up to the end of the line. -/
def readEntry? (s : List Char) : Option ((String × Value) × List Char) :=
  match readKey? s with
  | none => none
  | some (key, rest) =>
    match skipBlanks rest with
    | '=' :: rest =>
      match readValue? (skipBlanks rest) with
      | none => none
      | some (v, rest) => (endOfLine? rest).map fun rest => ((String.ofList key, v), rest)
    | _ => none

/-- Reads lines, after the entries in `done` (last first).  Each line takes a character at
    least. -/
def readLines (done : Document) : Nat → List Char → Option Document
  | 0, s => if s.isEmpty then some done.reverse else none
  | fuel + 1, s =>
    match skipBlanks s with
    | [] => some done.reverse
    | c :: rest =>
      if c = '#' || endsLine c rest then
        match endOfLine? (c :: rest) with
        | none => none
        | some rest => readLines done fuel rest
      else
        match readEntry? (c :: rest) with
        | none => none
        | some (e, rest) =>
          if (done.lookup e.1).isSome then none else readLines (e :: done) fuel rest

/-- The document of a text.  A byte order mark at its front is no part of it. -/
def read? (s : String) : Option Document :=
  let s := match s.toList with
    | c :: rest => if c = '\ufeff' then rest else c :: rest
    | [] => []
  readLines [] s.length s

end Telemetry.Toml
