import Telemetry.Files

namespace Telemetry

/-!
# Snapshots

* `Snapshot` — what was found at some paths, and what has been written since.
-/

/-- What was found at paths, and the writes since, latest first. -/
structure Snapshot where
  found : List (String × Except FileError (List UInt8)) := []
  written : List (String × List UInt8) := []

namespace Snapshot

/-- What a path leads to now. -/
def read (s : Snapshot) (path : String) : Except FileError (List UInt8) :=
  match s.written.lookup path with
  | some bytes => .ok bytes
  | none => (s.found.lookup path).getD (.error .notFound)

/-- Something lies at a path, be it readable or not. -/
def has (s : Snapshot) (path : String) : Bool :=
  match s.read path with
  | .error .notFound => false
  | _ => true

/-- Notes what is to be written. -/
def write (s : Snapshot) (path : String) (bytes : List UInt8) : Except FileError Unit × Snapshot :=
  (.ok (), { s with written := (path, bytes) :: s.written })

instance : Files Snapshot where
  has := has
  read := read
  write := write

end Snapshot

end Telemetry
