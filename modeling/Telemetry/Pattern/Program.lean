import Telemetry.Pattern.Regex

namespace Telemetry.Pattern

/-!
# Programs

An expression unfolds into instructions, each of which names where to go on.

* `Instruction`, `Program` — the instructions and the first of them.
* `Regex.emit` — appends the instructions of an expression that goes on at `next`.
* `Program.ofRegex?` — the whole program, unless it is too large.
-/

/-- One instruction. -/
inductive Instruction where
  /-- take a character of the set -/
  | take (s : CharSet) (next : Nat)
  /-- go on in either way, preferably the first -/
  | split (first second : Nat)
  /-- go on if the condition holds here -/
  | check (l : Look) (next : Nat)
  | finish
  | fail

/-- Instructions, and the index of the first. -/
structure Program where
  code : Array Instruction
  entry : Nat

/-- The index of an instruction, and the instructions after it was appended. -/
def push (i : Instruction) (code : Array Instruction) : Nat × Array Instruction :=
  (code.size, code.push i)

/-- A choice between an expression and leaving it out. -/
def choice (greedy : Bool) (inside outside : Nat) : Instruction :=
  if greedy then .split inside outside else .split outside inside

/-- Appends something `n` times, each going on at the one before. -/
def emitTimes (body : Nat → Array Instruction → Nat × Array Instruction) :
    Nat → Nat → Array Instruction → Nat × Array Instruction
  | 0, next, code => (next, code)
  | n + 1, next, code =>
    let (entry, code) := body next code
    emitTimes body n entry code

/-- Appends something up to `n` times, each of which may be the last. -/
def emitOptional (greedy : Bool) (body : Nat → Array Instruction → Nat × Array Instruction)
    (out : Nat) : Nat → Nat → Array Instruction → Nat × Array Instruction
  | 0, next, code => (next, code)
  | n + 1, next, code =>
    let (entry, code) := body next code
    let (entry, code) := push (choice greedy entry out) code
    emitOptional greedy body out n entry code

/-- Appends something that is taken once or more. -/
def emitLoop (greedy : Bool) (body : Nat → Array Instruction → Nat × Array Instruction)
    (next : Nat) (code : Array Instruction) : Nat × Array Instruction :=
  let (again, code) := push .fail code
  let (entry, code) := body again code
  (entry, code.setIfInBounds again (choice greedy entry next))

/-- Appends a repetition. -/
def emitRepeat (least : Nat) (most : Option Nat) (greedy : Bool)
    (body : Nat → Array Instruction → Nat × Array Instruction)
    (next : Nat) (code : Array Instruction) : Nat × Array Instruction :=
  match most with
  | some most =>
    let (entry, code) := emitOptional greedy body next (most - least) next code
    emitTimes body least entry code
  | none =>
    let (entry, code) := emitLoop greedy body next code
    if least = 0 then push (choice greedy entry next) code
    else emitTimes body (least - 1) entry code

namespace Regex

mutual

/-- Appends the instructions of an expression that goes on at `next`; the result begins
    with the index of the first of them. -/
def emit : Regex → Nat → Array Instruction → Nat × Array Instruction
  | empty, next, code => (next, code)
  | chars s, next, code => push (.take s next) code
  | look l, next, code => push (.check l next) code
  | cat parts, next, code => emitAll parts next code
  | alt branches, next, code => emitAny branches next code
  | rep r least most greedy, next, code =>
    let (least, most) := counts r least most
    emitRepeat least most greedy (fun next code => emit r next code) next code

/-- Appends expressions that follow each other. -/
def emitAll : List Regex → Nat → Array Instruction → Nat × Array Instruction
  | [], next, code => (next, code)
  | r :: rs, next, code =>
    let (next, code) := emitAll rs next code
    emit r next code

/-- Appends expressions of which one is taken, an earlier one preferably. -/
def emitAny : List Regex → Nat → Array Instruction → Nat × Array Instruction
  | [], _, code => push .fail code
  | [r], next, code => emit r next code
  | r :: rs, next, code =>
    let (second, code) := emitAny rs next code
    let (first, code) := emit r next code
    push (.split first second) code

end

end Regex

namespace Program

/-- The bytes that a program may take, and those that an instruction takes. -/
def byteLimit : Nat := 10 * 0x100000

/-- The bytes of one instruction. -/
def instructionBytes : Nat := 32

/-- The program of an expression, `none` when it would exceed the limit. -/
def ofRegex? (r : Regex) : Option Program :=
  if instructionBytes * r.size ≤ byteLimit then
    let (entry, code) := r.emit 0 #[.finish]
    some ⟨code, entry⟩
  else none

end Program

end Telemetry.Pattern
