/-
  The replay tool: replays a script and prints each transition as a line of JSON.

  The tool takes the name of a script and, optionally, the name of a configuration file.
  It prints all transitions or, if anything fails, none.
-/
import CallAudio.Tool.Config
import CallAudio.Json.Render
import CallAudio.Tool.LogFilter
import CallAudio.Script.Replay

namespace CallAudio

/-- Why the tool fails. -/
inductive CommandError where
  /-- No script is named. -/
  | usage
  /-- Nobody knows where configuration files are. -/
  | noConfigDirectory
  /-- The configuration or the script cannot be loaded. -/
  | load (error : LoadError)
  /-- The log filter is refused. -/
  | filter (error : FilterError)
  /-- The replay fails. -/
  | replay (error : ReplayError)
deriving DecidableEq, Inhabited

namespace CommandError

/-- The text of an error. -/
def message : CommandError → String
  | usage => "usage: hfp-route-replay <script.toml> [config.toml]"
  | noConfigDirectory => "Could not determine config directory"
  | load error => error.message
  | filter error => error.message
  | replay error => error.message

/-- The texts of an error and of what is known of its cause, outermost first. -/
def chain : CommandError → List String
  | replay error => error.chain
  | error => [error.message]

end CommandError

/-- What the tool finds around it. -/
structure Environment where
  /-- The files, by name. -/
  file : String → FileContent
  /-- The name of the configuration file that is used if none is given. -/
  defaultConfig : Option String
  /-- The log filter, if one is set. -/
  logFilter : Option String

namespace CommandLine

/-- The name of the configuration file. -/
def configPath (environment : Environment) (arguments : List String) :
    Except CommandError String :=
  match arguments, environment.defaultConfig with
  | path :: _, _ => .ok path
  | [], some path => .ok path
  | [], none => .error .noConfigDirectory

/-- The transitions that the script of a given name leads to. -/
def transitions (environment : Environment) (script : String) (arguments : List String) :
    Except CommandError (List Transition) := do
  let path ← configPath environment arguments
  let config ← (Config.load path (environment.file path)).mapError .load
  let _ ← (LogFilter.choose environment.logFilter config.logging.level).mapError .filter
  let script ← (Script.load script (environment.file script)).mapError .load
  (script.run config.timeouts.timeouts).mapError .replay

/-- The line that reports a transition. -/
def line (transition : Transition) : String := transition.encode.toJson

/-- The lines that the tool prints. -/
def run (environment : Environment) : List String → Except CommandError (List String)
  | [] => .error .usage
  | script :: arguments => do
    let transitions ← transitions environment script arguments
    return transitions.map line

/-- What a run leaves on the standard output: its lines, each ended by a line break, or nothing
    if the run fails. -/
def output : Except CommandError (List String) → String
  | .ok lines => String.join (lines.map (· ++ "\n"))
  | .error _ => ""

end CommandLine

end CallAudio
