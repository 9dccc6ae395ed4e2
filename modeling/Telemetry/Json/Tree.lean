import Telemetry.Json.Token

namespace Telemetry.Json

/-!
# JSON syntax trees

Tokens are assembled by a machine with a stack of open containers: each token is one
step, so a text of any depth is read in a single pass.

* `Tree` — a text's syntax; repeated names and malformed leaves are still in it.
* `State.step` — one token.
* `Tree.ofTokens?`, `Tree.ofText?` — the whole machine.

A limit on nesting belongs to those who use a tree, because a part of a text that is
skipped may nest without limit.
-/

/-- The syntax of a text. -/
inductive Tree where
  | null
  | bool (b : Bool)
  | number (n : Option Number)
  | text (s : Option String)
  | array (items : List Tree)
  | object (members : List (Option String × Tree))

/-- A container that is still open, with what it holds so far (last first). -/
inductive Frame where
  | items (done : List Tree)
  | members (done : List (Option String × Tree)) (name : Option String)

/-- What has been read, and so what may come next. -/
inductive State where
  /-- a value must come -/
  | value (stack : List Frame)
  /-- just after `[` -/
  | arrayStart (stack : List Frame)
  /-- after an item: a comma or `]` -/
  | afterItem (done : List Tree) (stack : List Frame)
  /-- just after an opening brace -/
  | objectStart (stack : List Frame)
  /-- after a comma between members: a name must come -/
  | name (done : List (Option String × Tree)) (stack : List Frame)
  /-- after a name: a colon must come -/
  | afterName (done : List (Option String × Tree)) (name : Option String) (stack : List Frame)
  /-- after a member: a comma or a closing brace -/
  | afterMember (done : List (Option String × Tree)) (stack : List Frame)
  /-- the text is complete -/
  | finished (t : Tree)

namespace State

/-- A complete value goes into the innermost open container. -/
def deliver (t : Tree) : List Frame → State
  | [] => finished t
  | .items done :: stack => afterItem (t :: done) stack
  | .members done n :: stack => afterMember ((n, t) :: done) stack

/-- A token where a value must begin. -/
def begin (stack : List Frame) : Token → Option State
  | .null => some (deliver .null stack)
  | .bool b => some (deliver (.bool b) stack)
  | .number n => some (deliver (.number n) stack)
  | .text s => some (deliver (.text s) stack)
  | .openArray => some (arrayStart stack)
  | .openObject => some (objectStart stack)
  | _ => none

/-- One token. -/
def step : State → Token → Option State
  | value stack, t => begin stack t
  | arrayStart stack, .closeArray => some (deliver (.array []) stack)
  | arrayStart stack, t => begin (.items [] :: stack) t
  | afterItem done stack, .comma => some (value (.items done :: stack))
  | afterItem done stack, .closeArray => some (deliver (.array done.reverse) stack)
  | objectStart stack, .closeObject => some (deliver (.object []) stack)
  | objectStart stack, .text n => some (afterName [] n stack)
  | name done stack, .text n => some (afterName done n stack)
  | afterName done n stack, .colon => some (value (.members done n :: stack))
  | afterMember done stack, .comma => some (name done stack)
  | afterMember done stack, .closeObject => some (deliver (.object done.reverse) stack)
  | _, _ => none

/-- The states after a run of tokens. -/
def run (s : State) : List Token → Option State
  | [] => some s
  | t :: ts =>
    match s.step t with
    | some s' => s'.run ts
    | none => none

theorem run_append (s : State) (ts us : List Token) :
    s.run (ts ++ us) = (s.run ts).bind fun s' => s'.run us := by
  induction ts generalizing s with
  | nil => rfl
  | cons t ts ih =>
    simp only [List.cons_append, run]
    cases s.step t with
    | none => rfl
    | some s' => exact ih s'

end State

/-- The tree of a text cut into tokens; there is exactly one value in it. -/
def Tree.ofTokens? (ts : List Token) : Option Tree :=
  match (State.value []).run ts with
  | some (.finished t) => some t
  | _ => none

/-- The tree of a text. -/
def Tree.ofText? (s : List Char) : Option Tree := (tokens? s).bind Tree.ofTokens?

end Telemetry.Json
