import Telemetry.Schema.Signature
import Telemetry.Schema.Descriptor

namespace Telemetry

/-!
# Schema registries

A registry gives each signature an id the first time it sees it, and the same entry ever
after.  Ids count from 1 in the order of first sight.

* `Registry.schema` — the entry of a record, registered if it is new.
* `Registry.contains`, `Registry.size` — what has been registered.
-/

/-- One distinct shape of record. -/
structure SchemaEntry where
  id : Nat
  descriptor : String
deriving DecidableEq, Repr

/-- The entries by signature, latest first, and the last id handed out. -/
structure Registry where
  table : List (Signature × SchemaEntry)
  lastId : Nat
deriving Repr

namespace Registry

/-- The registry that has seen nothing. -/
def empty : Registry := ⟨[], 0⟩

instance : Inhabited Registry := ⟨empty⟩

/-- The entry of a signature. -/
def find? (g : Registry) (s : Signature) : Option SchemaEntry := g.table.lookup s

/-- The entry of a record, and the registry in which it is registered. -/
def schema (g : Registry) (r : Record) (timeIndex : Option Nat) : SchemaEntry × Registry :=
  let s := Signature.of r timeIndex
  match g.find? s with
  | some entry => (entry, g)
  | none =>
    let entry : SchemaEntry := ⟨g.lastId + 1, Descriptor.text r timeIndex⟩
    (entry, ⟨(s, entry) :: g.table, g.lastId + 1⟩)

/-- A signature that has been registered. -/
def contains (g : Registry) (s : Signature) : Bool := (g.find? s).isSome

/-- The number of distinct shapes registered. -/
def size (g : Registry) : Nat := g.table.length

/-- A registry that has seen nothing. -/
def isEmpty (g : Registry) : Bool := g.table.isEmpty

/-- The diagnostic text. -/
def describe (g : Registry) : String :=
  s!"SchemaRegistry \x7b schema_count: {g.size}, last_id: {g.lastId} \x7d"

end Registry

end Telemetry
