/-
  What a parenthesis opens: a group, with or without a name, or modes that hold from there
  to the end of the group around them.
-/
import CallAudio.Text.Alphanumeric
import CallAudio.Tool.Pattern.Modes

namespace CallAudio.Pattern

/-- What a parenthesis opens. -/
inductive Opening where
  /-- A group in which these modes hold. -/
  | group (modes : Modes)
  /-- A group with a name. -/
  | named (name : String)
  /-- No group: from here on these modes hold. -/
  | modes (modes : Modes)
deriving DecidableEq, Inhabited

/-- Switches a mode; `none` if there is no such mode. -/
def switch? (modes : Modes) (on : Bool) : Char → Option Modes
  | 'u' => some { modes with wide := on }
  | 'i' => some { modes with ignoresCase := on }
  | 'x' => some { modes with spaced := on }
  | 'm' | 's' | 'U' | 'R' => some modes
  | _ => none

/-- The modes that letters switch on and, after a hyphen, off. -/
def switches? (modes : Modes) (on : Bool) : List Char → Option Modes
  | [] => some modes
  | '-' :: rest => if on ∧ rest ≠ [] then switches? modes false rest else none
  | c :: rest =>
    if rest.contains c then none
    else (switch? modes on c).bind fun modes => switches? modes on rest

/-- Whether a text can be the name of a group. -/
def isGroupName : List Char → Bool
  | [] => false
  | c :: rest =>
    (c = '_' || Text.isAlphabetic c) &&
      rest.all fun c => c = '_' || c = '.' || c = '[' || c = ']' || Text.isAlphanumeric c

/-- A name up to its closing bracket. -/
def groupName? (text : List Char) : Option (Opening × List Char) :=
  match text.span (· != '>') with
  | (name, '>' :: rest) =>
    if isGroupName name then some (.named (String.ofList name), rest) else none
  | _ => none

/-- What an opening parenthesis begins. -/
def opening? (modes : Modes) (text : List Char) : Option (Opening × List Char) :=
  match modes.skip text with
  | '?' :: '<' :: rest => groupName? rest
  | '?' :: 'P' :: '<' :: rest => groupName? rest
  | '?' :: rest =>
    match rest.span fun c => c != ':' && c != ')' with
    | (letters, ':' :: rest) =>
      (switches? modes true letters).map fun modes => (.group modes, rest)
    | (letters, ')' :: rest) =>
      if letters.isEmpty then none
      else (switches? modes true letters).map fun modes => (.modes modes, rest)
    | _ => none
  | text => some (.group modes, text)

end CallAudio.Pattern
