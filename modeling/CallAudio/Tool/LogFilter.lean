/-
  Which log lines are wanted.

  A filter is a list of directives.  It comes from the environment, where directives are
  separated by commas, or else from the configured level, which is then set for the targets
  of the replay tool.

  * `LogFilter.choose`: the filter in force;
  * `LogFilter.text`: the filter as text.
-/
import CallAudio.Tool.Directive

namespace CallAudio

/-- A list of directives, no two alike. -/
structure LogFilter where
  directives : List Directive := []
deriving DecidableEq, Inhabited

namespace LogFilter

/-- Adds a directive in place of an earlier one like it. -/
def add (filter : LogFilter) (directive : Directive) : LogFilter :=
  ⟨filter.directives.filter (!·.alike directive) ++ [directive]⟩

/-- The filter that a list of directives makes. -/
def ofTexts (texts : List String) : Except FilterError LogFilter :=
  texts.foldlM (fun filter text => (Directive.parse text).map filter.add) {}

/-- The targets of the replay tool. -/
def ownTargets : List String := ["hfp_route_core", "hfp_route_runtime", "hfp_route_replay"]

/-- The filter in force: the one in the environment, unless that is blank, or the
    configured level for our own targets. -/
def choose (environment : Option String) (level : String) : Except FilterError LogFilter :=
  match environment.filter fun text => !text.toList.all Text.isBlank with
  | some text => ofTexts ((text.splitOn ",").filter (· ≠ ""))
  | none => ofTexts (ownTargets.map (· ++ "=" ++ level))

/-- The text of a filter: the directives that are static and then those that are dynamic.  A
    directive can be both, and stands there twice then. -/
def text (filter : LogFilter) : String :=
  let listed :=
    filter.directives.filter Directive.isStatic ++ filter.directives.filter Directive.isDynamic
  String.intercalate "," (listed.map Directive.text)

end LogFilter

end CallAudio
