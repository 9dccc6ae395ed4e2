import Telemetry.Json.Quoted
import Telemetry.Json.Number

namespace Telemetry.Json

/-!
# JSON tokens

A text is cut into punctuation, words, numbers and string literals; the four blanks
between them vanish.

* `Token.read?` — the token at the front of a text that starts with no blank.
* `tokens?` — all tokens of a text.

A number out of range and a literal with an unpaired surrogate are still tokens: whether
they are refused depends on where they stand, so the token keeps `none` for them.
-/

/-- A lexical unit. -/
inductive Token where
  | openArray
  | closeArray
  | openObject
  | closeObject
  | comma
  | colon
  | null
  | bool (b : Bool)
  | number (n : Option Number)
  | text (s : Option String)
deriving DecidableEq, Repr

/-- The blanks that may stand between tokens. -/
def isBlank (c : Char) : Bool := c = ' ' || c = '\n' || c = '\t' || c = '\r'

/-- The token at the front of a text, and what follows it. -/
def Token.read? : List Char → Option (Token × List Char)
  | '[' :: s => some (.openArray, s)
  | ']' :: s => some (.closeArray, s)
  | '{' :: s => some (.openObject, s)
  | '}' :: s => some (.closeObject, s)
  | ',' :: s => some (.comma, s)
  | ':' :: s => some (.colon, s)
  | 'n' :: 'u' :: 'l' :: 'l' :: s => some (.null, s)
  | 't' :: 'r' :: 'u' :: 'e' :: s => some (.bool true, s)
  | 'f' :: 'a' :: 'l' :: 's' :: 'e' :: s => some (.bool false, s)
  | '"' :: s => (readText s).map fun (t, rest) => (.text t, rest)
  | s => (Numeral.read? s).map fun (n, rest) => (.number n.value?, rest)

/-- A token takes a character at least. -/
theorem Token.read?_length {s : List Char} {t : Token} {rest : List Char}
    (h : Token.read? s = some (t, rest)) : rest.length < s.length := by
  unfold Token.read? at h
  split at h
  case h_10 =>
    simp only [Option.map_eq_some_iff, Prod.mk.injEq] at h
    obtain ⟨r, hr, -, rfl⟩ := h
    have := readText_length hr
    simp only [List.length_cons]; omega
  case h_11 =>
    simp only [Option.map_eq_some_iff, Prod.mk.injEq] at h
    obtain ⟨r, hr, -, rfl⟩ := h
    exact Numeral.read?_length hr
  all_goals
    simp only [Option.some.injEq, Prod.mk.injEq] at h
    obtain ⟨-, rfl⟩ := h
    simp only [List.length_cons]; omega

/-- The tokens of a text after those in `done` (last first). -/
def tokensAfter (done : List Token) (s : List Char) : Option (List Token) :=
  match s with
  | [] => some done.reverse
  | c :: rest =>
    if isBlank c then tokensAfter done rest
    else
      match h : Token.read? (c :: rest) with
      | none => none
      | some (t, rest') =>
        have := Token.read?_length h
        tokensAfter (t :: done) rest'
termination_by s.length
decreasing_by
  · exact Nat.lt_succ_self _
  · assumption

/-- The tokens of a text, `none` when some part of it is no token. -/
def tokens? (s : List Char) : Option (List Token) := tokensAfter [] s

end Telemetry.Json
