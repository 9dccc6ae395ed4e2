import Telemetry.CommandLine
import Telemetry.Config.File
import Telemetry.Event.Reader
import Telemetry.Link
import Telemetry.Output.Shipment
import Telemetry.Transport.Writer

namespace Telemetry

/-!
# The program

Reads events from a file or the standard input and ships them: over a link, or as frames
to the standard output when they shall only be seen.

* `Outcome` — what the program leaves behind.
* `Program.run` — the program on a command line.
* `Program.start` — the same on a list of arguments.
-/

/-- What the program leaves behind. -/
structure Outcome (φ : Type) where
  code : UInt32
  stdout : List UInt8
  stderr : String
  files : φ

namespace Program

variable {φ ω : Type} [Files φ] [Endpoint ω]

/-- Success, with what was printed. -/
def succeed (files : φ) (stdout : List UInt8) : Outcome φ := ⟨0, stdout, "", files⟩

/-- Failure for a reason, with what was printed before. -/
def fail (files : φ) (stdout : List UInt8) (reason : String) : Outcome φ :=
  ⟨1, stdout, "error: " ++ reason ++ "\n", files⟩

/-- The outcome of a result. -/
def conclude (files : φ) (stdout : List UInt8) : Except String Unit → Outcome φ
  | .ok _ => succeed files stdout
  | .error reason => fail files stdout reason

/-- The configuration that a command line asks for; its socket comes before that of the
    file. -/
def configOf (c : CommandLine) (files : φ) : Except Error Config :=
  let config : Except Error Config := match c.config with
    | some path => Config.load files path
    | none => .ok {}
  config.map fun config =>
    match c.socket with
    | some path => { config with socketPath := some path }
    | none => config

/-- The events that a command line asks for. -/
def eventsOf (c : CommandLine) (files : φ) (stdin : List UInt8) : Except String (List Event) :=
  let bytes : Except String (List UInt8) := match c.input with
    | none => .ok stdin
    | some path => (Files.read files path).mapError fun e =>
      "opening input file '" ++ path ++ "': " ++ e.message
  bytes.bind fun bytes =>
    (match c.format with
      | .json => Event.readLines bytes
      | .msgpack => Event.readStream bytes).mapError Event.ReadError.message

/-- Ships events over a transport and closes it.  That closing failed is told before any
    other failure. -/
def deliver {τ : Type} [Transport τ] (config : Config) (transport : τ) (clock : Instant)
    (batchSize : Nat) (events : List Event) : Except String Unit × τ :=
  match Output.new config transport with
  | .error e => (.error e.message, transport)
  | .ok o =>
    let (shipped, o) := o.ship clock batchSize events
    let (closed, o) := o.close
    (match closed, shipped with
      | .error e, _ => .error e.message
      | .ok _, .error e => .error e.message
      | .ok _, .ok _ => .ok (), o.transport)

/-- Ships the events of a command line. -/
def ship (c : CommandLine) (files : φ) (world : ω) (stdin : List UInt8) (clock : Instant)
    (config : Config) : Outcome φ :=
  if c.dryRun then
    match eventsOf c files stdin with
    | .error reason => fail files [] reason
    | .ok events =>
      let writer : WriterTransport BoundedSink := { sink := {} }
      let (r, writer) := deliver config writer clock c.batchSize events
      conclude files writer.sink.written.toList r
  else
    match config.linkSettings with
    | .error e => fail files [] e.message
    | .ok settings =>
      match eventsOf c files stdin with
      | .error reason => fail files [] reason
      | .ok events =>
        let link : Link ω := { world := world, settings := settings }
        conclude files [] (deliver config link clock c.batchSize events).1

/-- The program on a command line. -/
def run (c : CommandLine) (files : φ) (world : ω) (stdin : List UInt8) (clock : Instant) :
    Outcome φ :=
  if c.printDefaultConfig then succeed files (Utf8.encode Config.defaultToml)
  else
    match c.initConfig with
    | some path =>
      let (r, files) := Config.writeDefault files path
      conclude files [] (r.mapError Error.message)
    | none =>
      match configOf c files with
      | .error e => fail files [] e.message
      | .ok config => ship c files world stdin clock config

/-- The outcome of a refused command line. -/
def refuse (files : φ) : CommandLine.Refusal → Outcome φ
  | .help => succeed files (Utf8.encode CommandLine.help)
  | .misuse => ⟨CommandLine.Refusal.misuse.code, [], CommandLine.usage, files⟩

/-- The program on a list of arguments. -/
def start (args : List String) (files : φ) (world : ω) (stdin : List UInt8) (clock : Instant) :
    Outcome φ :=
  match CommandLine.parse args with
  | .error r => refuse files r
  | .ok c => run c files world stdin clock

end Program

end Telemetry
