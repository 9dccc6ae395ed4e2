import Std.Time.DateTime.Timestamp
import Telemetry.Files.Snapshot
import Telemetry.Link.Agent
import Telemetry.Program

/-!
# The command

Reads what the program needs, runs it, and carries out what it decided.  No connection can
be made from here, so whatever shall go over a socket fails as it does without a receiver.
-/

namespace Telemetry.Main

/-- The cause of a failed read. -/
def cause : IO.Error → FileError
  | .noFileOrDirectory .. => .notFound
  | e => .other (toString e)

/-- What lies at a path. -/
def look (path : String) : IO (String × Except FileError (List UInt8)) := do
  try
    let bytes ← IO.FS.readBinFile path
    return (path, .ok bytes.toList)
  catch e => return (path, .error (cause e))

/-- The clock. -/
def clock : IO Instant := do
  let now := (← Std.Time.Timestamp.now).toNanosecondsSinceUnixEpoch.val
  return Instant.new (Int64.ofInt (now / 1000000000)) (now % 1000000000).toNat

/-- The paths that a command line names. -/
def paths (c : CommandLine) : List String := [c.config, c.initConfig, c.input].filterMap id

/-- The command line needs the standard input. -/
def readsStdin (c : CommandLine) : Bool :=
  !c.printDefaultConfig && c.initConfig.isNone && c.input.isNone

/-- Runs the program. -/
def run (args : List String) : IO UInt32 := do
  let stdin ← IO.getStdin
  let stdout ← IO.getStdout
  let stderr ← IO.getStderr
  let c := (CommandLine.parse args).toOption
  let found ← ((c.map paths).getD []).mapM look
  let input ← if (c.map readsStdin).getD false then stdin.readBinToEnd else pure .empty
  let o := Program.start args { found := found : Snapshot }
    { reason := "Connection refused (os error 111)" : Offline } input.toList (← clock)
  for (path, bytes) in o.files.written.reverse do
    IO.FS.writeBinFile path ⟨bytes.toArray⟩
  stdout.write ⟨o.stdout.toArray⟩
  stdout.flush
  stderr.putStr o.stderr
  return o.code

end Telemetry.Main

/-- The command. -/
def main (args : List String) : IO UInt32 := Telemetry.Main.run args
