import Telemetry.Text.Word

namespace Telemetry

/-!
# Command lines

* `CommandLine` — what a command line asks for.
* `CommandLine.parse` — a list of arguments; it is read from the left, and the first
  argument that is wrong, or asks for help, decides.
* `CommandLine.help` — the help text.

A value stands in the next argument or in the same one after an equals sign; after a short
option it may follow at once.  An option may be given once.
-/

/-- How events are written. -/
inductive Format where
  | json
  | msgpack
deriving DecidableEq, Repr

namespace Format

/-- The name of a format. -/
def name : Format → String
  | json => "json"
  | msgpack => "msgpack"

/-- The format of a name. -/
def ofName? (s : String) : Option Format :=
  if s = "json" then some json else if s = "msgpack" then some msgpack else none

end Format

/-- What a command line asks for; what it does not mention is absent. -/
structure CommandLine where
  /-- the file of events -/
  input : Option String := none
  config : Option String := none
  socket : Option String := none
  givenFormat : Option Format := none
  givenBatchSize : Option Nat := none
  dryRun : Bool := false
  printDefaultConfig : Bool := false
  initConfig : Option String := none
deriving DecidableEq, Repr

/-- Why a command line asks for nothing that can be done. -/
inductive CommandLine.Refusal where
  /-- help is asked for -/
  | help
  | misuse
deriving DecidableEq, Repr

namespace CommandLine

/-- How the events are written. -/
def format (c : CommandLine) : Format := c.givenFormat.getD .json

/-- How many events make a batch. -/
def batchSize (c : CommandLine) : Nat := c.givenBatchSize.getD 256

/-- The exit code of a refusal. -/
def Refusal.code : Refusal → UInt32
  | help => 0
  | misuse => 2

/-! ### Options -/

/-- The options. -/
inductive Parameter where
  | config
  | socket
  | format
  | batchSize
  | dryRun
  | printDefaultConfig
  | initConfig
  | help
deriving DecidableEq, Repr

namespace Parameter

/-- The option of a long name. -/
def ofName? (name : String) : Option Parameter :=
  if name = "config" then some config
  else if name = "socket" then some socket
  else if name = "format" then some format
  else if name = "batch-size" then some batchSize
  else if name = "dry-run" then some dryRun
  else if name = "print-default-config" then some printDefaultConfig
  else if name = "init-config" then some initConfig
  else if name = "help" then some help
  else none

/-- The option of a letter. -/
def ofLetter? (c : Char) : Option Parameter :=
  if c = 'c' then some config
  else if c = 's' then some socket
  else if c = 'h' then some help
  else none

/-- The option has a value. -/
def takesValue : Parameter → Bool
  | dryRun | printDefaultConfig | help => false
  | _ => true

end Parameter

/-- Sets what is not set yet. -/
def once {α : Type} (old : Option α) (new : Option α) : Except Refusal (Option α) :=
  match old, new with
  | none, some a => .ok (some a)
  | _, _ => .error .misuse

/-- Takes in an option with its value. -/
def setValue (c : CommandLine) (p : Parameter) (v : String) : Except Refusal CommandLine :=
  match p with
  | .config => (once c.config (some v)).map fun x => { c with config := x }
  | .socket => (once c.socket (some v)).map fun x => { c with socket := x }
  | .initConfig => (once c.initConfig (some v)).map fun x => { c with initConfig := x }
  | .format =>
    (once c.givenFormat (Format.ofName? v)).map fun x => { c with givenFormat := x }
  | .batchSize =>
    (once c.givenBatchSize (Text.word? v.toList)).map fun x => { c with givenBatchSize := x }
  | _ => .error .misuse

/-- Takes in an option without a value. -/
def setFlag (c : CommandLine) (p : Parameter) : Except Refusal CommandLine :=
  match p with
  | .help => .error .help
  | .dryRun => if c.dryRun then .error .misuse else .ok { c with dryRun := true }
  | .printDefaultConfig =>
    if c.printDefaultConfig then .error .misuse else .ok { c with printDefaultConfig := true }
  | _ => .error .misuse

/-- Takes in the file of events. -/
def setInput (c : CommandLine) (v : String) : Except Refusal CommandLine :=
  (once c.input (some v)).map fun x => { c with input := x }

/-! ### Arguments -/

/-- What an argument is. -/
inductive Argument where
  /-- two dashes: what follows are no options -/
  | endOfOptions
  | option (p : Parameter) (value : Option String)
  | plain
  /-- an option that does not exist -/
  | unknown
deriving DecidableEq, Repr

/-- The name and the value in an argument after its two dashes. -/
def splitValue (s : List Char) : String × Option String :=
  (String.ofList (s.takeWhile (· != '=')),
    match s.dropWhile (· != '=') with
    | [] => none
    | _ :: v => some (String.ofList v))

/-- The value that follows the letter of a short option at once. -/
def attached? : List Char → Option String
  | [] => none
  | '=' :: v => some (String.ofList v)
  | v => some (String.ofList v)

/-- What an argument is. -/
def classify (s : List Char) : Argument :=
  match s with
  | ['-', '-'] => .endOfOptions
  | '-' :: '-' :: rest =>
    let (name, value) := splitValue rest
    match Parameter.ofName? name with
    | none => .unknown
    | some p => if !p.takesValue && value.isSome then .unknown else .option p value
  | '-' :: c :: rest =>
    match Parameter.ofLetter? c with
    | none => .unknown
    | some p => .option p (if p.takesValue then attached? rest else none)
  | _ => .plain

/-- Takes in arguments that are no options. -/
def readPlain (c : CommandLine) : List String → Except Refusal CommandLine
  | [] => .ok c
  | v :: rest => (c.setInput v).bind (readPlain · rest)

/-- Takes in arguments. -/
def read (c : CommandLine) : List String → Except Refusal CommandLine
  | [] => .ok c
  | a :: rest =>
    match classify a.toList with
    | .endOfOptions => c.readPlain rest
    | .plain => (c.setInput a).bind (read · rest)
    | .unknown => .error .misuse
    | .option p (some v) => (c.setValue p v).bind (read · rest)
    | .option p none =>
      if p.takesValue then
        match rest with
        | [] => .error .misuse
        | v :: rest =>
          match classify v.toList with
          | .plain => (c.setValue p v).bind (read · rest)
          | _ => .error .misuse
      else (c.setFlag p).bind (read · rest)

/-- The command line of a list of arguments. -/
def parse (args : List String) : Except Refusal CommandLine := read {} args

/-! ### Help -/

/-- The help text. -/
def help : String :=
"Encode events as djson and ship them to the monitoring agent

Usage: djson [OPTIONS] [input]

Arguments:
  [input]  Event file to read (default: stdin)

Options:
  -c, --config <config>          Path of djson.toml
  -s, --socket <socket>          Agent socket path (overrides djson_socket)
      --format <format>          Input encoding [default: json] [possible values: json, msgpack]
      --batch-size <batch-size>  Events handed to the output per batch [default: 256]
      --dry-run                  Print framed items to stdout instead of sending
      --print-default-config     Print a commented default djson.toml and exit
      --init-config <PATH>       Write a default config file at the given path if missing, then exit
  -h, --help                     Print help
"

/-- What is said of a refused command line. -/
def usage : String := "Usage: djson [OPTIONS] [input]\n\nFor more information, try '--help'.\n"

end CommandLine

end Telemetry
