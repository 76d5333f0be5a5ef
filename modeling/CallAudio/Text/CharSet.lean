/-
  Sets of characters.

  A property of characters that follows no simple rule is a list of ranges of code points.
-/

namespace CallAudio.Text

/-- A set of characters: ranges of code points, both ends included, in ascending order. -/
abbrev CharSet := List (Nat × Nat)

/-- Whether a character is in a set. -/
def CharSet.contains (set : CharSet) (c : Char) : Bool :=
  set.any fun (first, last) => first ≤ c.toNat && c.toNat ≤ last

theorem CharSet.contains_iff {set : CharSet} {c : Char} :
    set.contains c ↔ ∃ first last, (first, last) ∈ set ∧ first ≤ c.toNat ∧ c.toNat ≤ last := by
  simp [CharSet.contains]

/-- The blanks of Unicode. -/
def blanks : CharSet :=
  [(0x9, 0xD), (0x20, 0x20), (0x85, 0x85), (0xA0, 0xA0), (0x1680, 0x1680), (0x2000, 0x200A),
    (0x2028, 0x2029), (0x202F, 0x202F), (0x205F, 0x205F), (0x3000, 0x3000)]

/-- Whether a character is a blank. -/
def isBlank (c : Char) : Bool := blanks.contains c

end CallAudio.Text
