/-
  The modes of a pattern, its blanks, and its escapes.

  A mode says how the pattern is to be understood from a place on.  Without the mode `u` a
  pattern is about ASCII.  With it, whatever needs a table of characters is refused: digits,
  word characters and blanks by name, and letters regardless of case.

  In the mode `x` blanks and comments do not count.  They are passed over in front of
  whatever may follow (`Modes.skip`), so never inside a name or a list of modes.
-/
import CallAudio.Text.CharSet
import CallAudio.Text.Digits

namespace CallAudio.Pattern

/-- How a part of a pattern is to be understood. -/
structure Modes where
  /-- Mode `u`: the pattern is about all characters. -/
  wide : Bool := true
  /-- Mode `i`: capitals and small letters are the same. -/
  ignoresCase : Bool := false
  /-- Mode `x`: blanks and comments do not count. -/
  spaced : Bool := false
deriving DecidableEq, Inhabited

/-- Whether letters can be compared in these modes. -/
def Modes.comparesLetters (modes : Modes) : Bool := !(modes.wide && modes.ignoresCase)

/-! ## Blanks -/

/-- A text without the blanks and comments in front.  A comment goes from a number sign to
    the end of the line. -/
def skipComments (inComment : Bool) : List Char → List Char
  | [] => []
  | c :: rest =>
    if inComment then skipComments (c != '\n') rest
    else if c = '#' then skipComments true rest
    else if Text.isBlank c then skipComments false rest
    else c :: rest

theorem length_skipComments_le (inComment : Bool) (text : List Char) :
    (skipComments inComment text).length ≤ text.length := by
  induction text generalizing inComment with
  | nil => simp [skipComments]
  | cons c rest ih =>
    simp only [skipComments, List.length_cons]
    have hf := ih false
    have ht := ih true
    have hc := ih (c != '\n')
    split
    · omega
    split
    · omega
    split
    · omega
    · simp

/-- Where to read on: behind blanks and comments, if they do not count. -/
def Modes.skip (modes : Modes) (text : List Char) : List Char :=
  if modes.spaced then skipComments false text else text

theorem Modes.length_skip_le (modes : Modes) (text : List Char) :
    (modes.skip text).length ≤ text.length := by
  unfold Modes.skip
  split
  · exact length_skipComments_le false text
  · exact Nat.le_refl _

/-- The character that a hyphen between two items looks ahead to.  Blanks and one number
    sign are passed over, but no comment: its text counts here. -/
def Modes.ahead? (modes : Modes) (text : List Char) : Option Char :=
  if modes.spaced then
    match text.dropWhile Text.isBlank with
    | '#' :: rest => (rest.dropWhile Text.isBlank).head?
    | rest => rest.head?
  else text.head?

/-! ## Escapes -/

/-- What an escape, or an item of a class, stands for. -/
inductive Atom where
  | literal (c : Char)
  /-- A class of characters. -/
  | charClass
  /-- A place between characters. -/
  | place
  /-- A place where a word begins or ends, or where none does. -/
  | wordEdge
deriving DecidableEq, Inhabited

/-- The next `count` characters, each with blanks in front of it that do not count. -/
def take? (modes : Modes) : (count : Nat) → List Char → Option (List Char × List Char)
  | 0, text => some ([], text)
  | count + 1, text =>
    match modes.skip text with
    | [] => none
    | c :: rest => (take? modes count rest).map fun (taken, rest) => (c :: taken, rest)

/-- A character given by `count` hexadecimal digits. -/
def codePoint? (modes : Modes) (count : Nat) (text : List Char) : Option (Char × List Char) := do
  let (digits, rest) ← take? modes count text
  return (← Text.codePoint? digits, rest)

/-- What follows a backslash. -/
def escape? (modes : Modes) : List Char → Option (Atom × List Char)
  | [] => none
  | c :: rest =>
    match c with
    | 'x' => do
      let (code, rest) ← codePoint? modes 2 rest
      if modes.wide ∨ code.toNat < 128 then some (.literal code, rest) else none
    | 'u' => (codePoint? modes 4 rest).map fun (code, rest) => (.literal code, rest)
    | 'U' => (codePoint? modes 8 rest).map fun (code, rest) => (.literal code, rest)
    | 'd' | 's' | 'w' => if modes.wide then none else some (.charClass, rest)
    | 'a' => some (.literal '\x07', rest)
    | 'f' => some (.literal '\x0c', rest)
    | 't' => some (.literal '\t', rest)
    | 'n' => some (.literal '\n', rest)
    | 'r' => some (.literal '\r', rest)
    | 'v' => some (.literal '\x0b', rest)
    | 'A' | 'z' => some (.place, rest)
    | 'b' | 'B' | '<' | '>' => some (if modes.wide then .wordEdge else .place, rest)
    | c => if c.isAlphanum ∨ c.toNat ≥ 128 then none else some (.literal c, rest)

end CallAudio.Pattern
