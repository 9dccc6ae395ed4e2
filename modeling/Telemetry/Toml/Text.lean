import Telemetry.Toml.Document

namespace Telemetry.Toml

/-!
# Texts

A text is written in one of four styles: between single or double quotes, on one line or,
between three of them, on several.  Double quotes admit escapes.

* `Style.of` — the style in which a text is written: the first of the four that needs no
  escape, else double quotes.
* `writeText` — a text as written.
* `readText?` — a text in any of the styles.
-/

/-- How a text is written. -/
structure Style where
  /-- the quote, which admits escapes if it is a double one -/
  isLiteral : Bool
  /-- three quotes, between which lines may end -/
  isBlock : Bool
deriving DecidableEq, Repr

namespace Style

/-- The longest run of a character; `run` of them come before, and `best` was longest. -/
def longestRun (q : Char) (run best : Nat) : List Char → Nat
  | [] => max run best
  | c :: s => if c = q then longestRun q (run + 1) best s else longestRun q 0 (max run best) s

/-- The style in which a text is written. -/
def of (s : List Char) : Style :=
  let codes := s.any isControl
  let backslash := s.contains '\\'
  let lines := s.contains '\n'
  let double := longestRun '"' 0 0 s
  let single := longestRun '\'' 0 0 s
  if !codes && !backslash && double == 0 && !lines then ⟨false, false⟩
  else if !codes && single == 0 && !lines then ⟨true, false⟩
  else if !codes && !backslash && decide (double ≤ 2) then ⟨false, true⟩
  else if !codes && decide (single ≤ 2) then ⟨true, true⟩
  else ⟨false, lines⟩

/-- The quotes around a text. -/
def quotes (s : Style) : List Char :=
  List.replicate (if s.isBlock then 3 else 1) (if s.isLiteral then '\'' else '"')

end Style

/-! ### Writing -/

/-- A hexadecimal digit, letters in capitals. -/
def hexDigit (n : Nat) : Char := if n < 10 then Char.ofNat (48 + n) else Char.ofNat (55 + n)

/-- A character between double quotes, other than the quote itself. -/
def escapeChar (c : Char) : List Char :=
  if c = '\x08' then ['\\', 'b']
  else if c = '\t' then ['\\', 't']
  else if c = '\n' then ['\\', 'n']
  else if c = '\x0c' then ['\\', 'f']
  else if c = '\r' then ['\\', 'r']
  else if c = '\\' then ['\\', '\\']
  else if isControl c then ['\\', 'u', '0', '0', hexDigit (c.toNat / 16), hexDigit (c.toNat % 16)]
  else [c]

/-- A text between double quotes.  In a block, lines may end and up to two quotes in a row
    stand as they are; `run` quotes have just been written. -/
def escapeText (isBlock : Bool) (run : Nat) : List Char → List Char
  | [] => []
  | c :: s =>
    if c = '"' then
      if isBlock && decide (run < 2) then '"' :: escapeText isBlock (run + 1) s
      else '\\' :: '"' :: escapeText isBlock 0 s
    else if isBlock && c == '\n' then '\n' :: escapeText isBlock 0 s
    else escapeChar c ++ escapeText isBlock 0 s

/-- A text as written.  A block that holds several lines begins on a line of its own. -/
def writeText (s : List Char) : List Char :=
  let style := Style.of s
  let start := if style.isBlock && s.contains '\n' then ['\n'] else []
  let body := if style.isLiteral then s else escapeText style.isBlock 0 s
  style.quotes ++ start ++ body ++ style.quotes

/-! ### Reading -/

/-- What follows the quotes that end a text, and how many quotes before them belong to the
    text: a block may end in one or two quotes of its own. -/
def closing? (quote : Char) (isBlock : Bool) (s : List Char) : Option (Nat × List Char) :=
  if isBlock then
    let run := ((s.take 5).takeWhile (· == quote)).length
    if 3 ≤ run then some (run - 3, s.drop run) else none
  else
    match s with
    | c :: rest => if c = quote then some (0, rest) else none
    | [] => none

/-- A line ends here: with a line feed, or with a carriage return before it. -/
def endsLine (c : Char) (rest : List Char) : Bool :=
  c == '\n' || (c == '\r' && rest.head? == some '\n')

/-- The value of a hexadecimal digit. -/
def hexValue? (c : Char) : Option Nat :=
  if '0' ≤ c && c ≤ '9' then some (c.toNat - 48)
  else if 'a' ≤ c && c ≤ 'f' then some (c.toNat - 87)
  else if 'A' ≤ c && c ≤ 'F' then some (c.toNat - 55)
  else none

/-- What a letter after a backslash stands for. -/
def unescape? (c : Char) : Option Char :=
  if c = 'b' then some '\x08'
  else if c = 't' then some '\t'
  else if c = 'n' then some '\n'
  else if c = 'f' then some '\x0c'
  else if c = 'r' then some '\r'
  else if c = '"' then some '"'
  else if c = '\\' then some '\\'
  else none

/-- The character of a code point, if it is one. -/
def scalar? (n : Nat) : Option Char := if n.isValidChar then some (Char.ofNat n) else none

/-- Where the reader of a text between double quotes stands. -/
inductive Mode where
  /-- in the text, or in the white space after a line end that was escaped -/
  | text (skipping : Bool)
  /-- after a backslash -/
  | escape
  /-- in the blanks between a backslash and the line end that it escapes -/
  | lineEnd
  /-- in a code point, with digits to come and the value so far -/
  | code (left value : Nat)

/-- Reads a text after its double quotes up to those that end it; `done` (last first) has
    been read. -/
def readBasic (isBlock : Bool) (done : List Char) :
    Mode → List Char → Option (List Char × List Char)
  | _, [] => none
  | .text skipping, c :: rest =>
    if skipping && (isBlank c || endsLine c rest) then readBasic isBlock done (.text true) rest
    else
      match closing? '"' isBlock (c :: rest) with
      | some (n, rest) => some (done.reverse ++ List.replicate n '"', rest)
      | none =>
        if c = '\\' then readBasic isBlock done .escape rest
        else if isPlain c || (isBlock && c == '\n') then
          readBasic isBlock (c :: done) (.text false) rest
        else if isBlock && endsLine c rest then readBasic isBlock done (.text false) rest
        else none
  | .escape, c :: rest =>
    match unescape? c with
    | some d => readBasic isBlock (d :: done) (.text false) rest
    | none =>
      if c = 'u' then readBasic isBlock done (.code 4 0) rest
      else if c = 'U' then readBasic isBlock done (.code 8 0) rest
      else if isBlock && c == '\n' then readBasic isBlock done (.text true) rest
      else if isBlock && (isBlank c || endsLine c rest) then readBasic isBlock done .lineEnd rest
      else none
  | .lineEnd, c :: rest =>
    if c = '\n' then readBasic isBlock done (.text true) rest
    else if isBlank c || endsLine c rest then readBasic isBlock done .lineEnd rest
    else none
  | .code left value, c :: rest =>
    match hexValue? c with
    | none => none
    | some d =>
      if left ≤ 1 then
        match scalar? (value * 16 + d) with
        | some x => readBasic isBlock (x :: done) (.text false) rest
        | none => none
      else readBasic isBlock done (.code (left - 1) (value * 16 + d)) rest

/-- Reads a text after its single quotes up to those that end it. -/
def readLiteral (isBlock : Bool) (done : List Char) : List Char → Option (List Char × List Char)
  | [] => none
  | c :: rest =>
    match closing? '\'' isBlock (c :: rest) with
    | some (n, rest) => some (done.reverse ++ List.replicate n '\'', rest)
    | none =>
      if isPlain c || (isBlock && c == '\n') then readLiteral isBlock (c :: done) rest
      else if isBlock && endsLine c rest then readLiteral isBlock done rest
      else none

/-- A line end at the front is dropped. -/
def dropLineEnd : List Char → List Char
  | '\n' :: rest => rest
  | '\r' :: '\n' :: rest => rest
  | s => s

/-- Reads a text on one line. -/
def readLine? : List Char → Option (List Char × List Char)
  | '"' :: rest => readBasic false [] (.text false) rest
  | '\'' :: rest => readLiteral false [] rest
  | _ => none

/-- Reads a text.  A line end right after the quotes of a block is no part of it. -/
def readText? : List Char → Option (List Char × List Char)
  | '"' :: '"' :: '"' :: rest => readBasic true [] (.text false) (dropLineEnd rest)
  | '\'' :: '\'' :: '\'' :: rest => readLiteral true [] (dropLineEnd rest)
  | s => readLine? s

end Telemetry.Toml
