/-
  Patterns for the values of fields.

  A pattern is a regular expression.  What it matches is of no concern here, only whether it
  is one (`Pattern.check`).  It is made of

  * groups, with or without a name, and modes that hold to the end of a group;
  * alternatives, and repetition by `?`, `*` and `+` of whatever has something to repeat; a
    `?` right behind asks for as few as possible and repeats nothing;
  * classes in brackets, with ranges, classes inside, and operators between classes;
  * escapes of marks, of control characters, and of code points in hexadecimal.

  The text of a field holds no closing brace, so no count of repetitions can be complete.
-/
import CallAudio.Tool.Pattern.CharClass
import CallAudio.Tool.Pattern.Group

namespace CallAudio

/-- Why a text is no pattern. -/
inductive PatternError where
  /-- It is not well formed, nests too deep, or needs a table of characters. -/
  | malformed
  /-- It is well formed, but asks where words of all scripts begin or end. -/
  | wordEdge
deriving DecidableEq, Inhabited

/-- The text of an error. -/
def PatternError.message : PatternError → String
  | malformed => "error building NFA"
  | wordEdge =>
    "unsupported regex feature for DFAs: cannot build DFAs for regexes with Unicode word " ++
      "boundaries; switch to ASCII word boundaries, or heuristically enable Unicode word " ++
      "boundaries or use a different regex engine"

namespace Pattern

/-- What is left open around a group. -/
structure Enclosing where
  /-- The modes to go back to. -/
  modes : Modes
  /-- The parts in front of the group. -/
  parts : Parts
  /-- The alternatives in front of those parts. -/
  alternatives : Parts
deriving DecidableEq, Inhabited

/-- How far a pattern has been read. -/
structure Reading where
  modes : Modes := {}
  /-- The parts of the alternative that is being read. -/
  parts : Parts := {}
  /-- The levels of the last part, if it can be repeated. -/
  last : Option Nat := none
  /-- The alternatives before. -/
  alternatives : Parts := {}
  /-- What is open around, the innermost first. -/
  outer : List Enclosing := []
  /-- The names of groups so far. -/
  names : List String := []
  /-- Whether the edges of words of all scripts matter. -/
  wordEdges : Bool := false
deriving DecidableEq, Inhabited

namespace Reading

/-- Goes on after a part with so many levels inside. -/
def part (reading : Reading) (levels : Nat) : Reading :=
  { reading with parts := reading.parts.add levels, last := some levels }

/-- Goes on after a character, unless characters cannot be compared. -/
def character? (reading : Reading) : Option Reading :=
  if reading.modes.comparesLetters then some (reading.part 0) else none

/-- Goes on after an escape. -/
def atom? (reading : Reading) : Atom → Option Reading
  | .literal _ | .charClass => reading.character?
  | .place => some (reading.part 0)
  | .wordEdge => some { reading.part 0 with wordEdges := true }

/-- Goes on after a repetition; `none` if there is nothing to repeat. -/
def repeat? (reading : Reading) : Option Reading :=
  reading.last.map fun levels =>
    { reading with parts := reading.parts.grow (levels + 1), last := some (levels + 1) }

/-- The levels of all alternatives of the group that is being read. -/
def levels (reading : Reading) : Nat := (reading.alternatives.add reading.parts.levels).levels

/-- Begins another alternative. -/
def alternative (reading : Reading) : Reading :=
  { reading with
    alternatives := reading.alternatives.add reading.parts.levels, parts := {}, last := none }

/-- Enters a group. -/
def enter (reading : Reading) (modes : Modes) : Reading :=
  { reading with
    modes := modes, parts := {}, last := none, alternatives := {}
    outer := ⟨reading.modes, reading.parts, reading.alternatives⟩ :: reading.outer }

/-- Goes on after the end of a group; `none` if there is none to end. -/
def leave? (reading : Reading) : Option Reading :=
  match reading.outer with
  | around :: outer =>
    some (({ reading with
      modes := around.modes, parts := around.parts, alternatives := around.alternatives
      outer := outer } : Reading).part (reading.levels + 1))
  | [] => none

/-- Goes on after an opening parenthesis; `none` if it repeats the name of a group. -/
def begin? (reading : Reading) : Opening → Option Reading
  | .group modes => some (reading.enter modes)
  | .named name =>
    if reading.names.contains name then none
    else some { reading.enter reading.modes with names := name :: reading.names }
  | .modes modes =>
    some { reading with modes := modes, parts := reading.parts.add 0, last := none }

/-- One step: a mark, a character, an escape or a class. -/
def step? (reading : Reading) (c : Char) (rest : List Char) : Option (Reading × List Char) :=
  match c with
  | '(' => do
    let (opening, rest) ← opening? reading.modes rest
    return (← reading.begin? opening, rest)
  | ')' => reading.leave?.map (·, rest)
  | '|' => some (reading.alternative, rest)
  | '?' | '*' | '+' =>
    reading.repeat?.map (·, if rest.head? = some '?' then rest.drop 1 else rest)
  | '{' => none
  | '[' => do
    let (cls, rest) ← openClass? reading.modes rest
    let (levels, rest) ← charClass? reading.modes (rest.length + 1) [] cls rest
    return (reading.part levels, rest)
  | '\\' => do
    let (atom, rest) ← escape? reading.modes rest
    return (← reading.atom? atom, rest)
  | '^' | '$' => some (reading.part 0, rest)
  | '.' => if reading.modes.wide then some (reading.part 0, rest) else none
  | _ => reading.character?.map (·, rest)

/-- Reads a pattern to its end.  Every step takes at least one character. -/
def finish? : (fuel : Nat) → Reading → List Char → Option Reading
  | 0, _, _ => none
  | fuel + 1, reading, text =>
    match reading.modes.skip text with
    | [] => some reading
    | c :: rest => (reading.step? c rest).bind fun (reading, rest) => finish? fuel reading rest

end Reading

/-- Whether a text is a regular expression, and if not, why. -/
def check (text : List Char) : Except PatternError Unit :=
  match ({} : Reading).finish? (text.length + 1) text with
  | none => .error .malformed
  | some reading =>
    if !reading.outer.isEmpty ∨ reading.levels > maxNesting then .error .malformed
    else if reading.wordEdges then .error .wordEdge
    else .ok ()

end Pattern

end CallAudio
