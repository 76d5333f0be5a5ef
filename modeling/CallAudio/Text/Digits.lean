/-
  Digits and code points.
-/

namespace CallAudio.Text

/-- The value of a digit in bases up to 16. -/
def digitValue? (c : Char) : Option Nat :=
  if '0' ≤ c ∧ c ≤ '9' then some (c.toNat - '0'.toNat)
  else if 'a' ≤ c ∧ c ≤ 'f' then some (c.toNat - 'a'.toNat + 10)
  else if 'A' ≤ c ∧ c ≤ 'F' then some (c.toNat - 'A'.toNat + 10)
  else none

/-- The number that digits in base 16 stand for. -/
def hexValue? (digits : List Char) : Option Nat :=
  (digits.mapM digitValue?).map (·.foldl (16 * · + ·) 0)

/-- The number that decimal digits stand for. -/
def decimal? (digits : List Char) : Option Nat :=
  if digits ≠ [] ∧ digits.all Char.isDigit then some (Nat.ofDigitChars 10 digits 0) else none

/-- The number that decimal digits stand for; a plus may stand in front. -/
def number? : List Char → Option Nat
  | '+' :: digits => decimal? digits
  | digits => decimal? digits

/-- The character of a code point, if it is one. -/
def charOf? (code : Nat) : Option Char :=
  if h : code.isValidChar then some (Char.ofNatAux code h) else none

/-- The character whose code point is given by digits in base 16. -/
def codePoint? (digits : List Char) : Option Char := (hexValue? digits).bind charOf?

end CallAudio.Text
