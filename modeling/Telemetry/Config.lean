import Telemetry.Encoder
import Telemetry.Link.Settings

namespace Telemetry

/-!
# Configurations

Every setting of an output.

* `Config` — the settings; the defaults are those of an empty configuration file.
* `Config.validate` — what would fail later is refused at once.
* `Config.encoderSettings`, `Config.linkSettings` — the settings of the parts.
-/

/-- The settings of an output. -/
structure Config where
  /-- the path of the receiver's socket -/
  socketPath : Option String := none
  /-- milliseconds for which an acknowledgement is awaited; zero is not at all -/
  ackTimeout : Nat := 0
  /-- milliseconds between rounds of sending again -/
  resendInterval : Nat := 30000
  /-- milliseconds for which a connection is tried -/
  connRetryTimeout : Nat := 60000
  tagPatterns : List String := []
  /-- the field in which the emission time is put, if it is wanted -/
  timeField : Option String := none
  /-- the emission time is the event's own, not the clock's -/
  useSourceTime : Bool := true
  recordSizeLimit : Nat := recordSizeCeiling
  /-- maps travel as JSON text -/
  mapsAsJson : Bool := false
deriving DecidableEq, Repr

namespace Config

/-- The settings of the encoder. -/
def encoderSettings (c : Config) : EncoderSettings where
  timeField := c.timeField
  useSourceTime := c.useSourceTime
  recordSizeLimit := c.recordSizeLimit
  mapsAsJson := c.mapsAsJson
  tagPatterns := c.tagPatterns

/-- The settings of the link, which needs a path. -/
def linkSettings (c : Config) : Except Error Link.Settings :=
  match c.socketPath with
  | none => .error (.config "djson_socket is not set")
  | some path =>
    let s : Link.Settings := { socketPath := path }
    .ok (((s.setAckTimeout c.ackTimeout).setResendInterval c.resendInterval).setConnRetryTimeout
      c.connRetryTimeout)

/-- Refuses, in this order, a pattern that is none, a size limit of zero, and an empty name
    of the time field. -/
def validate (c : Config) : Except Error Unit :=
  match TagPatterns.ofTexts c.tagPatterns with
  | .error e => .error e
  | .ok _ =>
    if c.recordSizeLimit = 0 then .error (.config "max_record_size must be greater than 0")
    else if c.timeField = some "" then .error (.config "emit_timestamp_name must not be empty")
    else .ok ()

end Config

end Telemetry
