import Telemetry.Config
import Telemetry.Toml.Reader
import Telemetry.Toml.Writer

namespace Telemetry.Config

/-!
# Configurations as documents

* `document` — a configuration as a flat document, all settings in a fixed order; what is
  absent has no key.
* `ofDocument?` — the configuration of a document; a setting without a key has its default,
  a key that names no setting is refused.
* `ofToml` — the configuration of a text, validated.
* `defaultToml` — a commented text that holds the defaults.
-/

/-- An entry that may be absent. -/
def textEntry (key : String) : Option String → Toml.Document
  | none => []
  | some s => [(key, .text s)]

/-- The document of a configuration. -/
def document (c : Config) : Toml.Document :=
  textEntry "djson_socket" c.socketPath ++
  [("ack_timeout_ms", .integer c.ackTimeout),
   ("resend_interval_ms", .integer c.resendInterval),
   ("conn_retry_timeout_ms", .integer c.connRetryTimeout),
   ("tag_regex_patterns", .texts c.tagPatterns)] ++
  textEntry "emit_timestamp_name" c.timeField ++
  [("use_source_timestamp", .boolean c.useSourceTime),
   ("max_record_size", .integer c.recordSizeLimit),
   ("convert_hash_to_json", .boolean c.mapsAsJson)]

/-- Sets what a key names, if the value is of its type. -/
def setKey (c : Config) (key : String) (v : Toml.Value) : Option Config :=
  match key, v with
  | "djson_socket", .text s => some { c with socketPath := some s }
  | "ack_timeout_ms", .integer (.ofNat n) => some { c with ackTimeout := n }
  | "resend_interval_ms", .integer (.ofNat n) => some { c with resendInterval := n }
  | "conn_retry_timeout_ms", .integer (.ofNat n) => some { c with connRetryTimeout := n }
  | "tag_regex_patterns", .texts xs => some { c with tagPatterns := xs }
  | "emit_timestamp_name", .text s => some { c with timeField := some s }
  | "use_source_timestamp", .boolean b => some { c with useSourceTime := b }
  | "max_record_size", .integer (.ofNat n) => some { c with recordSizeLimit := n }
  | "convert_hash_to_json", .boolean b => some { c with mapsAsJson := b }
  | _, _ => none

/-- Sets what the keys of a document name. -/
def setKeys (c : Config) : Toml.Document → Option Config
  | [] => some c
  | (key, v) :: rest => (c.setKey key v).bind (setKeys · rest)

/-- The configuration of a document. -/
def ofDocument? (d : Toml.Document) : Option Config := setKeys {} d

/-- The configuration of a text; `failure` says that it is not one. -/
def ofTomlOr (failure : String) (s : String) : Except Error Config :=
  match (Toml.read? s).bind ofDocument? with
  | none => .error (.config failure)
  | some c => c.validate.map fun _ => c

/-- The configuration of a text. -/
def ofToml (s : String) : Except Error Config := ofTomlOr "Failed to parse config" s

/-- A configuration as text; the integers of a document are signed words. -/
def toToml (c : Config) : Except Error String :=
  match Toml.write? c.document with
  | some s => .ok s
  | none => .error (.config "Failed to serialize config: out-of-range value for u64 type")

/-- The text of a configuration file to begin with. -/
def defaultToml : String :=
"# djson output configuration
#
# Full path of the agent's djson socket file (required unless dry-running)
# djson_socket = \"/var/run/mdsd/default_djson.socket\"

# Milliseconds an item waits for the agent's ack. Unacknowledged items are
# resent every resend_interval_ms and dropped once older than this.
# 0 turns off ack tracking and resends.
ack_timeout_ms = 0
resend_interval_ms = 30000

# Milliseconds to keep retrying a failed connection, with backoff from
# 100 ms up to 1 minute between attempts. 0 tries once.
conn_retry_timeout_ms = 60000

# Ordered regexes matched against each tag; the first matched substring
# becomes the source name, otherwise the whole tag is used.
# tag_regex_patterns = ['^mdsd\\.syslog', '^mdsd\\.ext_syslog\\.\\w+']
tag_regex_patterns = []

# Name of a time field appended to every record (omit to disable)
# emit_timestamp_name = \"FluentdIngestTimestamp\"

# true = event time of the record, false = time of encoding
use_source_timestamp = true

# Largest encoded record in bytes; larger records are dropped.
# Values above 131071 are clamped.
max_record_size = 131071

# Ship mapping values as JSON object text instead of their plain text form
convert_hash_to_json = false
"

end Telemetry.Config
