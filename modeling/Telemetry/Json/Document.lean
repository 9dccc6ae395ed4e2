import Telemetry.Json.Tree

namespace Telemetry.Json

/-!
# JSON documents

A document is a tree without malformed leaves, in which each object has a name once.

* `put` — a member set in an object: a repeated name keeps its first position and takes
  the last value.
* `Document.ofTree?` — from syntax; nested at most `nestingLimit` deep.
* `Document.toTree`, `Document.depth` — its syntax, and how deep it nests.
* `Document.toText` — compact text.
-/

/-- A parsed text. -/
inductive Document where
  | null
  | bool (b : Bool)
  | number (n : Number)
  | text (s : String)
  | array (items : List Document)
  | object (members : List (String × Document))

instance : Inhabited Document := ⟨.null⟩

/-- Containers that may stand inside each other. -/
def nestingLimit : Nat := 127

/-- Sets a member: in place when the name is present, else last. -/
def put {α : Type} (members : List (String × α)) (name : String) (value : α) :
    List (String × α) :=
  if members.any (·.1 == name) then
    members.map fun m => if m.1 == name then (name, value) else m
  else members ++ [(name, value)]

/-- The members in order, repeated names collapsed. -/
def collapse {α : Type} (members : List (String × α)) : List (String × α) :=
  members.foldl (fun kept m => put kept m.1 m.2) []

namespace Document

/-! ### From syntax -/

mutual

/-- The document of a tree with at most `depth` containers inside each other. -/
def ofTree? (depth : Nat) : Tree → Option Document
  | .null => some .null
  | .bool b => some (.bool b)
  | .number n => n.map .number
  | .text s => s.map .text
  | .array items => if depth = 0 then none else (itemsOf? (depth - 1) [] items).map .array
  | .object members =>
    if depth = 0 then none else (membersOf? (depth - 1) [] members).map .object

/-- The documents of the items after those in `done` (last first). -/
def itemsOf? (depth : Nat) (done : List Document) : List Tree → Option (List Document)
  | [] => some done.reverse
  | t :: ts =>
    match ofTree? depth t with
    | some d => itemsOf? depth (d :: done) ts
    | none => none

/-- The members set one after the other into `done`. -/
def membersOf? (depth : Nat) (done : List (String × Document)) :
    List (Option String × Tree) → Option (List (String × Document))
  | [] => some done
  | (name, t) :: ts =>
    match name, ofTree? depth t with
    | some name, some d => membersOf? depth (put done name d) ts
    | _, _ => none

end

/-- The document of a text. -/
def ofText? (s : List Char) : Option Document :=
  (Tree.ofText? s).bind (ofTree? nestingLimit)

/-! ### Back to syntax -/

mutual

/-- A document as a syntax tree. -/
def toTree : Document → Tree
  | .null => .null
  | .bool b => .bool b
  | .number n => .number (some n)
  | .text s => .text (some s)
  | .array items => .array (itemTrees [] items)
  | .object members => .object (memberTrees [] members)

/-- Items as trees, after those in `done` (last first). -/
def itemTrees (done : List Tree) : List Document → List Tree
  | [] => done.reverse
  | d :: ds => itemTrees (toTree d :: done) ds

/-- Members as trees, after those in `done` (last first). -/
def memberTrees (done : List (Option String × Tree)) :
    List (String × Document) → List (Option String × Tree)
  | [] => done.reverse
  | (name, d) :: ds => memberTrees ((some name, toTree d) :: done) ds

end

mutual

/-- The number of containers inside each other. -/
def depth : Document → Nat
  | .array items => itemsDepth 0 items + 1
  | .object members => membersDepth 0 members + 1
  | _ => 0

/-- The greatest depth among the items, at least `deepest`. -/
def itemsDepth (deepest : Nat) : List Document → Nat
  | [] => deepest
  | d :: ds => itemsDepth (max deepest (depth d)) ds

/-- The greatest depth among the members, at least `deepest`. -/
def membersDepth (deepest : Nat) : List (String × Document) → Nat
  | [] => deepest
  | (_, d) :: ds => membersDepth (max deepest (depth d)) ds

end

/-! ### Compact text -/

mutual

/-- The characters of a document. -/
def chars : Document → List Char
  | .null => ['n', 'u', 'l', 'l']
  | .bool true => ['t', 'r', 'u', 'e']
  | .bool false => ['f', 'a', 'l', 's', 'e']
  | .number n => n.chars
  | .text s => quoteChars s.toList
  | .array items => '[' :: (itemsChars items ++ [']'])
  | .object members => '{' :: (membersChars members ++ ['}'])

/-- The characters of items, commas between them. -/
def itemsChars : List Document → List Char
  | [] => []
  | [d] => chars d
  | d :: ds => chars d ++ ',' :: itemsChars ds

/-- The characters of members, commas between them. -/
def membersChars : List (String × Document) → List Char
  | [] => []
  | [(name, d)] => quoteChars name.toList ++ ':' :: chars d
  | (name, d) :: ds => quoteChars name.toList ++ ':' :: (chars d ++ ',' :: membersChars ds)

end

/-- The compact text of a document. -/
def toText (d : Document) : String := String.ofList d.chars

end Document

end Telemetry.Json
