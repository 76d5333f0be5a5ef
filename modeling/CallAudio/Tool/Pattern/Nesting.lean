/-
  How deep a pattern nests.

  Groups, repetitions, classes and their operators each add a level to what is inside, and
  so do two or more parts side by side, and two or more alternatives.  A single character is
  at level zero.  `maxNesting` bounds the levels.
-/

namespace CallAudio.Pattern

/-- The most levels that a pattern can have. -/
def maxNesting : Nat := 250

/-- Parts on one level. -/
structure Parts where
  /-- How many there are. -/
  count : Nat := 0
  /-- The levels inside the deepest of them. -/
  deepest : Nat := 0
deriving DecidableEq, Inhabited

namespace Parts

/-- One more part, with so many levels inside. -/
def add (parts : Parts) (levels : Nat) : Parts := ⟨parts.count + 1, max parts.deepest levels⟩

/-- The same parts after one of them has grown to so many levels. -/
def grow (parts : Parts) (levels : Nat) : Parts := ⟨parts.count, max parts.deepest levels⟩

/-- The levels of the parts taken together.  A part that stands alone adds none. -/
def levels (parts : Parts) : Nat := if parts.count ≤ 1 then parts.deepest else parts.deepest + 1

end Parts

end CallAudio.Pattern
