import Telemetry.Files

namespace Telemetry

/-!
# Folders in memory

* `Folder` — one folder of files; paths begin in it, and nothing lies outside of it.
* `Folder.place` — what a path leads to.
* `Folder.has`, `Folder.read`, `Folder.write` — the operations on files.
-/

/-- A folder of files; of two files of one name the first counts. -/
structure Folder where
  files : List (String × List UInt8) := []
deriving Repr

namespace Folder

/-- What a path leads to. -/
inductive Place where
  | folder
  | file (name : String)
  /-- a name in the folder that no file has -/
  | free (name : String)
  /-- like `free`, but only a folder could have the name -/
  | freeFolder
deriving DecidableEq, Repr

/-- The longest name, in bytes. -/
def nameLimit : Nat := 255

/-- The longest path, in bytes. -/
def pathLimit : Nat := 4095

/-- Follows the parts of a path from the folder; an empty part and a dot stay where they
    are.  Nothing lies outside of the folder. -/
def follow (f : Folder) : List String → Except FileError Place
  | [] => .ok .folder
  | name :: rest =>
    if name = "" || name = "." then follow f rest
    else if name = ".." then .error .notFound
    else if nameLimit < name.utf8ByteSize then .error .nameTooLong
    else
      match f.files.lookup name, rest with
      | some _, [] => .ok (.file name)
      | some _, _ :: _ => .error .notAFolder
      | none, [] => .ok (.free name)
      | none, _ :: _ => if rest.all (· = "") then .ok .freeFolder else .error .notFound

/-- A path cut at its slashes. -/
def parts (path : String) : List String :=
  (path.toList.splitOnP (· == '/')).map String.ofList

/-- What a path leads to. -/
def place (f : Folder) (path : String) : Except FileError Place :=
  if path.toList.contains '\x00' then .error .zeroInPath
  else if path = "" then .error .notFound
  else if pathLimit < path.utf8ByteSize then .error .nameTooLong
  else if path.toList.head? = some '/' then
    if path.toList.all (· == '/') then .ok .folder else .error .notFound
  else f.follow (parts path)

/-- Something lies at the path. -/
def has (f : Folder) (path : String) : Bool :=
  match f.place path with
  | .ok .folder | .ok (.file _) => true
  | _ => false

/-- The bytes of a file. -/
def read (f : Folder) (path : String) : Except FileError (List UInt8) :=
  match f.place path with
  | .ok (.file name) => .ok ((f.files.lookup name).getD [])
  | .ok .folder => .error .isAFolder
  | .ok _ => .error .notFound
  | .error e => .error e

/-- The folder after a file was written. -/
def put (f : Folder) (name : String) (bytes : List UInt8) : Folder := ⟨(name, bytes) :: f.files⟩

/-- Writes a file anew. -/
def write (f : Folder) (path : String) (bytes : List UInt8) : Except FileError Unit × Folder :=
  match f.place path with
  | .ok (.file name) | .ok (.free name) => (.ok (), f.put name bytes)
  | .ok _ => (.error .isAFolder, f)
  | .error e => (.error e, f)

instance : Files Folder where
  has := has
  read := read
  write := write

end Folder

end Telemetry
