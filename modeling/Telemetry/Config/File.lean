import Telemetry.Config.Document
import Telemetry.Files

namespace Telemetry.Config

/-!
# Configuration files

* `load` — the configuration of a file.
* `save` — writes a configuration to a file.
* `writeDefault` — writes the defaults, unless something lies at the path.
-/

variable {φ : Type} [Files φ]

/-- The configuration of a file. -/
def load (f : φ) (path : String) : Except Error Config :=
  match Files.readText f path with
  | .error e =>
    .error (.config ("Failed to read config file '" ++ path ++ "': " ++ e.message))
  | .ok s => ofTomlOr ("Failed to parse config file '" ++ path ++ "'") s

/-- Writes a configuration.  One that cannot be written as text leaves the files alone. -/
def save (c : Config) (f : φ) (path : String) : Except Error Unit × φ :=
  match c.toToml with
  | .error e => (.error e, f)
  | .ok s =>
    let (r, f) := Files.write f path (Utf8.encode s)
    (r.mapError fun e => .io e.message, f)

/-- Writes the defaults, unless something lies at the path. -/
def writeDefault (f : φ) (path : String) : Except Error Unit × φ :=
  if Files.has f path then (.ok (), f)
  else
    let (r, f) := Files.write f path (Utf8.encode defaultToml)
    (r.mapError fun e =>
      .config ("Failed to write default config file '" ++ path ++ "': " ++ e.message), f)

end Telemetry.Config
