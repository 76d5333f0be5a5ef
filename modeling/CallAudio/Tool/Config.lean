/-
  The configuration of the replay tool.

  All of it is optional: a field that is not given, a table that is not given and a file
  that is not there leave the default in force.  A field that is given has to be of its
  type and range.

  * `LogSettings`, `TimeoutSettings`, `Config`: the configuration;
  * `Config.ofToml?`, `Config.load`: reading it;
  * `TimeoutSettings.timeouts`: what it means for the route machine.
-/
import CallAudio.Datum.Decoding
import CallAudio.Files.Content
import CallAudio.Files.LoadError
import CallAudio.Timeouts
import CallAudio.Toml.Document

namespace CallAudio

/-- What is logged. -/
structure LogSettings where
  /-- The least severe level that is logged. -/
  level : String := "info"
  /-- Whether log lines are JSON. -/
  json : Bool := false
deriving DecidableEq, Inhabited

/-- The timing parameters, in milliseconds. -/
structure TimeoutSettings where
  /-- How long a device may take to confirm audio. -/
  pendingMs : Nat := 5000
  /-- How long to wait before a failed connection is tried again. -/
  backoffMs : Nat := 500
  /-- How often a failed connection is tried again. -/
  retries : Nat := 0
deriving DecidableEq, Inhabited

/-- The configuration of the replay tool. -/
structure Config where
  logging : LogSettings := {}
  timeouts : TimeoutSettings := {}
deriving DecidableEq, Inhabited

/-- Whole numbers of 32 bits lie below this bound. -/
def halfWordBound : Nat := UInt32.size

namespace LogSettings

/-- Log settings from data; what is not given has its default. -/
def decode? (format : Format) (datum : Datum) : Option LogSettings := do
  let fallback : LogSettings := {}
  match ← datum.record? format ["level", "json"] with
  | [level, json] =>
    return { level := ← Datum.orElse fallback.level Datum.text? level
             json := ← Datum.orElse fallback.json Datum.bool? json }
  | _ => none

/-- Log settings as data. -/
def encode (settings : LogSettings) : Datum :=
  .table [("level", .text settings.level), ("json", .bool settings.json)]

end LogSettings

namespace TimeoutSettings

/-- Timing parameters from data; what is not given has its default. -/
def decode? (format : Format) (datum : Datum) : Option TimeoutSettings := do
  let fallback : TimeoutSettings := {}
  match ← datum.record? format
    ["pending_timeout_ms", "retry_backoff_ms", "max_connect_retries"] with
  | [pending, backoff, retries] =>
    return { pendingMs := ← Datum.orElse fallback.pendingMs (Datum.natBelow? wordBound) pending
             backoffMs := ← Datum.orElse fallback.backoffMs (Datum.natBelow? wordBound) backoff
             retries := ← Datum.orElse fallback.retries (Datum.natBelow? halfWordBound) retries }
  | _ => none

/-- Timing parameters as data. -/
def encode (settings : TimeoutSettings) : Datum :=
  .table [("pending_timeout_ms", .integer settings.pendingMs),
    ("retry_backoff_ms", .integer settings.backoffMs),
    ("max_connect_retries", .integer settings.retries)]

/-- The timing parameters of the route machine. -/
def timeouts (settings : TimeoutSettings) : Timeouts :=
  .of (.ofMillis settings.pendingMs) (.ofMillis settings.backoffMs) settings.retries

end TimeoutSettings

namespace Config

/-- A configuration from data; what is not given has its default. -/
def decode? (format : Format) (datum : Datum) : Option Config := do
  match ← datum.record? format ["logging", "timeouts"] with
  | [logging, timeouts] =>
    return { logging := ← Datum.orElse {} (LogSettings.decode? format) logging
             timeouts := ← Datum.orElse {} (TimeoutSettings.decode? format) timeouts }
  | _ => none

/-- A configuration as data. -/
def encode (config : Config) : Datum :=
  .table [("logging", config.logging.encode), ("timeouts", config.timeouts.encode)]

/-- The configuration that a TOML document holds. -/
def ofToml? (text : String) : Option Config := do
  decode? .toml (← Datum.ofToml? text)

/-- The configuration in a file; the default one if there is no file. -/
def load (path : String) : FileContent → Except LoadError Config
  | .missing => .ok {}
  | .unreadable => .error (.configUnreadable path)
  | .text text =>
    match ofToml? text with
    | some config => .ok config
    | none => .error (.configMalformed path)

end Config

end CallAudio
