import Std.Data.HashMap
import Telemetry.Value.Document
import Telemetry.Error

namespace Telemetry

/-!
# Records

A record is an ordered list of named fields.  The order matters: it lines the schema
descriptor up with the encoded values.  No name occurs twice.

* `Record.insert` — set in place, or at the end when the name is new.
* `Record.pushLast` — set at the end, removed from where it was.
* `Record.ofFields` — from any list: first position, last value; one pass with an index.
* `Record.ofValue` — from a map whose keys are all texts.
* `Record.ofTree?` — decoded directly from a JSON object.
-/

/-- Named values in order, each name once. -/
structure Record where
  fields : List (String × Value)
  nodup : (fields.map Prod.fst).Nodup

namespace Record

/-- The record without fields. -/
def empty : Record := ⟨[], by simp⟩

instance : Inhabited Record := ⟨empty⟩

/-- The field names in order. -/
def names (r : Record) : List String := r.fields.map Prod.fst

/-- The values in order. -/
def values (r : Record) : List Value := r.fields.map Prod.snd

/-- The number of fields. -/
def size (r : Record) : Nat := r.fields.length

/-- A record without fields. -/
def isEmpty (r : Record) : Bool := r.fields.isEmpty

/-- The value of a field. -/
def get? (r : Record) (name : String) : Option Value :=
  (r.fields.find? (·.1 == name)).map Prod.snd

/-- Equality field by field, in order. -/
def same (r s : Record) : Bool :=
  r.names == s.names && Value.sameItems r.values s.values

/-! ### Setting fields -/

/-- The fields with one value replaced. -/
def replace (fields : List (String × Value)) (name : String) (value : Value) :
    List (String × Value) :=
  fields.map fun f => if f.1 == name then (f.1, value) else f

/-- Replacing a value changes no name. -/
theorem names_replace (fields : List (String × Value)) (name : String) (value : Value) :
    (replace fields name value).map Prod.fst = fields.map Prod.fst := by
  simp only [replace, List.map_map]
  apply List.map_congr_left
  intro f _
  simp only [Function.comp]
  split <;> rfl

/-- Sets a field: a present one keeps its position, a new one goes last. -/
def insert (r : Record) (name : String) (value : Value) : Record :=
  if h : name ∈ r.names then
    ⟨replace r.fields name value, by rw [names_replace]; exact r.nodup⟩
  else
    ⟨r.fields ++ [(name, value)], by
      rw [List.map_append]
      simp only [List.map_cons, List.map_nil, List.nodup_append, List.mem_singleton]
      refine ⟨r.nodup, by simp, ?_⟩
      rintro a ha b rfl rfl
      exact h ha⟩

/-- Sets a field and moves it to the end. -/
def pushLast (r : Record) (name : String) (value : Value) : Record where
  fields := r.fields.filter (·.1 != name) ++ [(name, value)]
  nodup := by
    rw [List.map_append]
    simp only [List.map_cons, List.map_nil, List.nodup_append, List.mem_singleton]
    refine ⟨r.nodup.sublist (List.filter_sublist.map _), by simp, ?_⟩
    rintro a ha b rfl rfl
    simp only [List.mem_map, List.mem_filter] at ha
    obtain ⟨f, ⟨-, hf⟩, rfl⟩ := ha
    simp at hf

/-! ### From a list of fields -/

/-- Fields gathered in one pass: their positions by name, and the fields so far. -/
structure Gathered where
  position : Std.HashMap String Nat
  fields : Array (String × Value)
  sound : ∀ (i : Nat) (h : i < fields.size), position[(fields[i]).1]? = some i

/-- Nothing gathered yet. -/
def Gathered.start : Gathered := ⟨∅, #[], by simp⟩

/-- Takes in one field: over the earlier value of its name, or at the end. -/
def Gathered.add (g : Gathered) (name : String) (value : Value) : Gathered :=
  match h : g.position[name]? with
  | some i =>
    if hi : i < g.fields.size then
      if hn : g.fields[i].1 = name then
        { g with
          fields := g.fields.set i (name, value)
          sound := by
            intro j hj
            have hj' : j < g.fields.size := by simpa using hj
            have hs := g.sound j hj'
            by_cases hij : i = j
            · subst hij; simpa using h
            · simpa [Array.getElem_set, hij] using hs }
      else g
    else g
  | none =>
    { position := g.position.insert name g.fields.size
      fields := g.fields.push (name, value)
      sound := by
        intro j hj
        simp only [Array.size_push] at hj
        by_cases hlt : j < g.fields.size
        · have hs := g.sound j hlt
          have hne : name ≠ g.fields[j].1 := by
            intro he
            rw [← he, h] at hs
            simp at hs
          rw [Array.getElem_push_lt hlt, Std.HashMap.getElem?_insert]
          simp [hne, hs]
        · have hj : j = g.fields.size := by omega
          subst hj
          simp }

theorem Gathered.nodup (g : Gathered) : (g.fields.toList.map Prod.fst).Nodup := by
  rw [List.nodup_iff_pairwise_ne, List.pairwise_iff_getElem]
  intro i j hi hj hij heq
  simp only [List.length_map, Array.length_toList] at hi hj
  simp only [List.getElem_map, Array.getElem_toList] at heq
  have h1 := g.sound i hi
  have h2 := g.sound j hj
  rw [heq, h2] at h1
  simp only [Option.some.injEq] at h1
  omega

/-- The record of any fields, in one pass: a repeated name keeps its first position and
    takes the last value. -/
def ofFields (fields : List (String × Value)) : Record :=
  let g := fields.foldl (fun g f => g.add f.1 f.2) Gathered.start
  ⟨g.fields.toList, g.nodup⟩

/-! ### From values and texts -/

/-- The entries of a map as fields; a key that is no text refuses the map. -/
def namedEntries : List (Value × Value) → Except Error (List (String × Value))
  | [] => .ok []
  | (.text name, v) :: es => (namedEntries es).map ((name, v) :: ·)
  | (k, _) :: _ =>
    .error (.serialization ("record field names must be strings, got " ++ k.kindName))

/-- The record of a map whose keys are all texts. -/
def ofValue : Value → Except Error Record
  | .map entries => (namedEntries entries).map ofFields
  | v => .error (.serialization ("record must be a map, got " ++ v.kindName))

/-- The members of an object as fields, after those in `done` (last first). -/
def fieldsOfTrees? (depth : Nat) (done : List (String × Value)) :
    List (Option String × Json.Tree) → Option (List (String × Value))
  | [] => some done.reverse
  | (name, t) :: ts =>
    match name, Value.ofTree? depth t with
    | some name, some v => fieldsOfTrees? depth ((name, v) :: done) ts
    | _, _ => none

/-- The record of a JSON object, with at most `depth` containers inside each other. -/
def ofTree? (depth : Nat) : Json.Tree → Option Record
  | .object members =>
    if depth = 0 then none else (fieldsOfTrees? (depth - 1) [] members).map ofFields
  | _ => none

/-- The record of a JSON text. -/
def ofJson? (s : List Char) : Option Record :=
  (Json.Tree.ofText? s).bind (ofTree? Json.nestingLimit)

/-- The record of a document. -/
def ofDocument? (d : Json.Document) : Option Record := ofTree? d.depth d.toTree

end Record

end Telemetry
