import Telemetry.Text.Utf8

namespace Telemetry

/-!
# Files

* `FileError` — why a file cannot be read or written; `FileError.message` — its wording.
* `Files` — surroundings with files.
-/

/-- Why a file cannot be read or written. -/
inductive FileError where
  | notFound
  | notAFolder
  | isAFolder
  | nameTooLong
  /-- a path with a zero character -/
  | zeroInPath
  /-- bytes that are no text -/
  | notText
  /-- any other cause, in the words of the system -/
  | other (reason : String)
deriving DecidableEq, Repr

/-- The wording of an error. -/
def FileError.message : FileError → String
  | notFound => "No such file or directory (os error 2)"
  | notAFolder => "Not a directory (os error 20)"
  | isAFolder => "Is a directory (os error 21)"
  | nameTooLong => "File name too long (os error 36)"
  | zeroInPath => "file name contained an unexpected NUL byte"
  | notText => "stream did not contain valid UTF-8"
  | other reason => reason

/-- Surroundings with files, which are found by their paths. -/
class Files (φ : Type) where
  /-- Something lies at the path. -/
  has : φ → String → Bool
  read : φ → String → Except FileError (List UInt8)
  /-- Writes a file anew. -/
  write : φ → String → List UInt8 → Except FileError Unit × φ

namespace Files

variable {φ : Type} [Files φ]

/-- Reads a file as text. -/
def readText (f : φ) (path : String) : Except FileError String :=
  match Files.read f path with
  | .error e => .error e
  | .ok bytes =>
    match Utf8.decode? bytes with
    | some s => .ok s
    | none => .error .notText

end Files

end Telemetry
