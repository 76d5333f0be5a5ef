/-
  Classes of characters in brackets.

  A class is a list of characters, ranges, classes with a name, and classes in brackets; the
  operators `&&`, `--` and `~~` stand between such lists and are taken from left to right.
  A caret in front asks for the complement, which in ASCII is no class.  Hyphens in front,
  and a closing bracket that would leave the class empty, are items.

  Where letters cannot be compared a class can have no items at all: what is left are
  operators between empty lists.
-/
import CallAudio.Tool.Pattern.Modes
import CallAudio.Tool.Pattern.Nesting

namespace CallAudio.Pattern

/-- The classes that have names. -/
def classNames : List String :=
  ["alnum", "alpha", "ascii", "blank", "cntrl", "digit", "graph", "lower", "print", "punct",
    "space", "upper", "word", "xdigit"]

/-- A class given by its name between colons and the bracket that ends it, after the opening
    bracket; and whether its complement is meant. -/
def namedClass? : List Char → Option (Bool × List Char)
  | ':' :: rest =>
    let negated := rest.head? = some '^'
    match (if negated then rest.drop 1 else rest).span (· != ':') with
    | (name, ':' :: ']' :: rest) =>
      if classNames.contains (String.ofList name) then some (negated, rest) else none
    | _ => none
  | _ => none

/-- A class that has been opened. -/
structure OpenClass where
  /-- The items since the last operator. -/
  items : Parts := {}
  /-- The levels of what stands in front of that operator. -/
  left : Option Nat := none
deriving DecidableEq, Inhabited

namespace OpenClass

/-- The levels inside the class. -/
def levels (cls : OpenClass) : Nat :=
  match cls.left with
  | some left => max left cls.items.levels + 1
  | none => cls.items.levels

/-- Goes on after an operator. -/
def operator (cls : OpenClass) : OpenClass := { left := some cls.levels }

/-- Adds `count` characters, ranges or classes with a name, unless there can be none. -/
def items? (modes : Modes) (count : Nat) (cls : OpenClass) : Option OpenClass :=
  if count = 0 ∨ modes.comparesLetters then
    some { cls with items := { cls.items with count := cls.items.count + count } }
  else none

/-- Adds a class in brackets. -/
def inner (cls inside : OpenClass) : OpenClass :=
  { cls with items := cls.items.add (inside.levels + 1) }

end OpenClass

/-- How many hyphens a text begins with, and what follows them. -/
def hyphens (modes : Modes) (text : List Char) : Nat × List Char :=
  match text with
  | '-' :: rest =>
    let (count, rest) := hyphens modes (modes.skip rest)
    (count + 1, rest)
  | text => (0, text)
termination_by text.length
decreasing_by
  have := modes.length_skip_le rest
  simp only [List.length_cons]
  omega

/-- A class after its opening bracket, up to the first character that must be looked at. -/
def openClass? (modes : Modes) (text : List Char) : Option (OpenClass × List Char) :=
  let (negated, text) := match modes.skip text with
    | '^' :: rest => (true, modes.skip rest)
    | text => (false, text)
  if negated ∧ !modes.wide then none
  else
    let (count, text) := match hyphens modes text with
      | (0, ']' :: rest) => (1, rest)
      | found => found
    (OpenClass.items? modes count {}).map (·, text)

/-- An item of a class, or an end of a range. -/
def classAtom? (modes : Modes) (text : List Char) : Option (Atom × List Char) :=
  let atom := match text with
    | [] => none
    | '\\' :: rest => escape? modes rest
    | c :: rest => some (.literal c, rest)
  atom.filter fun
    | (.literal c, _) => modes.wide || c.toNat < 128
    | (.charClass, _) => true
    | (.place, _) | (.wordEdge, _) => false

/-- An item or a range of a class. -/
def classItem? (modes : Modes) (text : List Char) : Option (List Char) := do
  let (first, rest) ← classAtom? modes text
  match modes.skip rest with
  | '-' :: behind =>
    if modes.ahead? behind = some ']' ∨ modes.ahead? behind = some '-' then
      return '-' :: behind
    let (last, rest) ← classAtom? modes (modes.skip behind)
    match first, last with
    | .literal first, .literal last => if first ≤ last then some rest else none
    | _, _ => none
  | rest => return rest

/-- The levels of a class and what follows it; `outer` classes are open around it, the
    innermost first. -/
def charClass? (modes : Modes) :
    (fuel : Nat) → (outer : List OpenClass) → OpenClass → List Char → Option (Nat × List Char)
  | 0, _, _, _ => none
  | fuel + 1, outer, cls, text =>
    let item (rest : List Char) : Option (Nat × List Char) :=
      (cls.items? modes 1).bind fun cls => charClass? modes fuel outer cls rest
    match modes.skip text with
    | '[' :: rest =>
      match namedClass? rest with
      | some (negated, rest) => if negated ∧ !modes.wide then none else item rest
      | none => (openClass? modes rest).bind fun (inside, rest) =>
          charClass? modes fuel (cls :: outer) inside rest
    | ']' :: rest =>
      match outer with
      | [] => some (cls.levels + 1, rest)
      | around :: outer => charClass? modes fuel outer (around.inner cls) rest
    | '&' :: '&' :: rest | '-' :: '-' :: rest | '~' :: '~' :: rest =>
      charClass? modes fuel outer cls.operator rest
    | text => (classItem? modes text).bind item

end CallAudio.Pattern
