/-
  Numbers of TOML.

  Digits may be separated by single underscores.  Integers have 64 bits with a sign; in
  base 16, 8 and 2 they have no sign of their own.  A decimal number that is too large for
  a double is refused, unless it is negative.
-/
import CallAudio.Datum.Basic
import CallAudio.Toml.Text

namespace CallAudio.Toml

/-- Whether a character is a digit in the given base. -/
def isDigitIn (base : Nat) (c : Char) : Bool := (Text.digitValue? c).any (· < base)

/-- The digits that follow a digit, underscores between them left out. -/
def moreDigits (base : Nat) : List Char → List Char × List Char
  | '_' :: c :: rest =>
    if isDigitIn base c then
      let (digits, rest) := moreDigits base rest
      (c :: digits, rest)
    else ([], '_' :: c :: rest)
  | c :: rest =>
    if isDigitIn base c then
      let (digits, rest) := moreDigits base rest
      (c :: digits, rest)
    else ([], c :: rest)
  | [] => ([], [])

/-- One digit or more. -/
def digits (base : Nat) : List Char → Option (List Char × List Char)
  | c :: rest =>
    if isDigitIn base c then
      let (digits, rest) := moreDigits base rest
      some (c :: digits, rest)
    else none
  | [] => none

/-- The digits of a decimal number: a zero stands alone. -/
def wholeDigits : List Char → Option (List Char × List Char)
  | '0' :: rest => some (['0'], rest)
  | text => digits 10 text

/-- The number that digits stand for. -/
def valueIn (base : Nat) (digits : List Char) : Nat :=
  digits.foldl (fun value c => base * value + (Text.digitValue? c).getD 0) 0

/-- Integers of 64 bits lie below this bound, and not below minus it. -/
def integerBound : Nat := 1 <<< 63

/-- An integer, if it has 64 bits. -/
def integer? (value : Int) : Option Datum :=
  if -integerBound ≤ value ∧ value < integerBound then some (.integer value) else none

/-- The digits of an integer in the given base. -/
def baseInteger (base : Nat) (text : List Char) : Option (Datum × List Char) := do
  let (ds, rest) ← digits base text
  return (← integer? (valueIn base ds), rest)

/-- A sign, if there is one: whether it is a minus. -/
def sign : List Char → Bool × List Char
  | '-' :: rest => (true, rest)
  | '+' :: rest => (false, rest)
  | text => (false, text)

/-- A fraction, if there is one: its digits. -/
def fraction : List Char → Option (List Char × List Char)
  | '.' :: rest => digits 10 rest
  | text => some ([], text)

/-- An exponent, if there is one. -/
def exponent (text : List Char) : Option (Option Int × List Char) :=
  match text with
  | mark :: rest =>
    if mark = 'e' ∨ mark = 'E' then do
      let (negative, rest) := sign rest
      let (ds, rest) ← digits 10 rest
      let size : Int := valueIn 10 ds
      return (some (if negative then -size else size), rest)
    else some (none, text)
  | [] => some (none, [])

/-- The least number that is too large for a double: half a unit in the last place beyond
    the largest one. -/
def overflowBound : Nat := 1 <<< 1024 - 1 <<< 970

/-- Whether `mantissa` times ten to the power `exponent` is too large for a double.  Where
    the number of digits settles it no power is computed. -/
def overflows (mantissa : Nat) (exponent : Int) : Bool :=
  let size : Int := (Nat.toDigits 10 mantissa).length + exponent
  if mantissa = 0 ∨ size < 309 then false
  else if size > 309 then true
  else mantissa * Nat.pow 10 exponent.toNat ≥ overflowBound * Nat.pow 10 (-exponent).toNat

/-- A decimal number, its sign already read. -/
def decimal (negative : Bool) (text : List Char) : Option (Datum × List Char) := do
  let (whole, rest) ← wholeDigits text
  let (part, rest) ← fraction rest
  let (power, rest) ← exponent rest
  if part.isEmpty && power.isNone then
    let size : Int := valueIn 10 whole
    return (← integer? (if negative then -size else size), rest)
  else
    let mantissa := valueIn 10 (whole ++ part)
    if !negative && overflows mantissa (power.getD 0 - part.length) then none
    else
      let consumed := text.take (text.length - rest.length)
      return (.real (String.ofList ((if negative then ['-'] else []) ++ consumed)), rest)

/-- A number. -/
def number (text : List Char) : Option (Datum × List Char) :=
  match text with
  | '0' :: 'x' :: rest => baseInteger 16 rest
  | '0' :: 'o' :: rest => baseInteger 8 rest
  | '0' :: 'b' :: rest => baseInteger 2 rest
  | text =>
    let (negative, rest) := sign text
    match rest with
    | 'i' :: 'n' :: 'f' :: rest => some (.real (if negative then "-inf" else "inf"), rest)
    | 'n' :: 'a' :: 'n' :: rest => some (.real "nan", rest)
    | rest => decimal negative rest

end CallAudio.Toml
