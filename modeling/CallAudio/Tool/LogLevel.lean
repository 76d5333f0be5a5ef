/-
  How much is logged.

  * `LogLevel.ofString?`: a level by its name, in any case, or by its number.
-/
import CallAudio.Text.Digits

namespace CallAudio

/-- How much is logged, from nothing to everything. -/
inductive LogLevel where
  | off
  | error
  | warn
  | info
  | debug
  | trace
deriving DecidableEq, Inhabited

namespace LogLevel

/-- The levels in order, each at the place of its number. -/
def all : List LogLevel := [off, error, warn, info, debug, trace]

/-- The name of a level. -/
def name : LogLevel → String
  | off => "off"
  | error => "error"
  | warn => "warn"
  | info => "info"
  | debug => "debug"
  | trace => "trace"

/-- A level by its number or its name. -/
def ofString? (text : String) : Option LogLevel :=
  match Text.number? text.toList with
  | some n => all[n]?
  | none => all.find? (·.name = text.toLower)

end LogLevel

end CallAudio
