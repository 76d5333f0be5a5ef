/-
  Why a configuration or a script cannot be loaded.
-/
import CallAudio.Files.QuotedPath

namespace CallAudio

/-- Why a configuration or a script cannot be loaded. -/
inductive LoadError where
  /-- The configuration file is no text. -/
  | configUnreadable (path : String)
  /-- The text of the configuration file is no configuration. -/
  | configMalformed (path : String)
  /-- There is no script file, or it is no text. -/
  | scriptUnreadable (path : String)
  /-- The text is no script. -/
  | scriptMalformed
deriving DecidableEq, Inhabited

/-- The text of an error. -/
def LoadError.message : LoadError → String
  | configUnreadable path => "Failed to read config file: " ++ quotePath path
  | configMalformed path => "Failed to parse config file: " ++ quotePath path
  | scriptUnreadable path => "Failed to read replay script: " ++ quotePath path
  | scriptMalformed => "Failed to parse replay script"

end CallAudio
