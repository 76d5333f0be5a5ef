/-
  The replay tool as a program.

  Nothing is decided here: files and environment variables are read, and what
  `CommandLine.output` says of the run is printed.
-/
import CallAudio.Tool.CommandLine

namespace CallAudio.Main

/-- What is found under the name of a file. -/
def readFile (path : String) : IO FileContent := do
  try
    return .ofBytes (← IO.FS.readBinFile path)
  catch
    | .noFileOrDirectory .. => return .missing
    | _ => return .unreadable

/-- The directory below which configurations are kept. -/
def configHome : IO (Option String) := do
  match ← IO.getEnv "XDG_CONFIG_HOME" with
  | some directory =>
    if directory.startsWith "/" then return some directory
  | none => pure ()
  match ← IO.getEnv "HOME" with
  | some directory => return if directory.isEmpty then none else some (directory ++ "/.config")
  | none => return none

/-- Prints an error and what caused it. -/
def complain (error : CommandError) : IO Unit := do
  IO.eprintln ("Error: " ++ error.message)
  match error.chain.drop 1 with
  | [] => pure ()
  | [cause] => IO.eprintln ("\nCaused by:\n    " ++ cause)
  | causes =>
    IO.eprintln "\nCaused by:"
    for (cause, index) in causes.zipIdx do
      IO.eprintln ("    " ++ toString index ++ ": " ++ cause)

/-- Runs the tool and returns its exit code. -/
def run (arguments : List String) : IO UInt32 := do
  let defaultConfig := (← configHome).map (· ++ "/hfproute/config.toml")
  let names := arguments.take 2 ++ defaultConfig.toList
  let files ← names.mapM fun name => return (name, ← readFile name)
  let environment : Environment :=
    { file := fun name => (files.lookup name).getD .missing
      defaultConfig
      logFilter := ← IO.getEnv "RUST_LOG" }
  let result := CommandLine.run environment arguments
  IO.print (CommandLine.output result)
  match result with
  | .ok _ => return 0
  | .error error =>
    complain error
    return 1

end CallAudio.Main

/-- Replays the script named on the command line. -/
def main (arguments : List String) : IO UInt32 := CallAudio.Main.run arguments
