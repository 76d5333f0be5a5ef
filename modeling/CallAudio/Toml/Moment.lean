/-
  Dates and times of day of TOML.

  A date has to exist in the calendar.  A time of day may follow a date after a `T` or a
  blank, and may then have an offset from universal time.
-/
import CallAudio.Datum.Basic

namespace CallAudio.Toml

/-- The number that decimal digits stand for, if all characters are digits. -/
def fixedDigits? (digits : List Char) : Option Nat :=
  if digits.all Char.isDigit then some (Nat.ofDigitChars 10 digits 0) else none

/-- Whether a year has a 29 February. -/
def isLeapYear (year : Nat) : Bool :=
  year % 4 = 0 && (year % 100 != 0 || year % 400 = 0)

/-- The number of days of a month. -/
def daysInMonth (year month : Nat) : Nat :=
  match month with
  | 2 => if isLeapYear year then 29 else 28
  | 4 | 6 | 9 | 11 => 30
  | _ => 31

/-- A date; the result is what is left after it. -/
def date : List Char → Option (List Char)
  | y₁ :: y₂ :: y₃ :: y₄ :: '-' :: m₁ :: m₂ :: '-' :: d₁ :: d₂ :: rest => do
    let year ← fixedDigits? [y₁, y₂, y₃, y₄]
    let month ← fixedDigits? [m₁, m₂]
    let day ← fixedDigits? [d₁, d₂]
    if 1 ≤ month ∧ month ≤ 12 ∧ 1 ≤ day ∧ day ≤ daysInMonth year month then some rest
    else none
  | _ => none

/-- The fraction of a second, if there is one. -/
def secondFraction (text : List Char) : List Char :=
  match text with
  | '.' :: c :: rest => if c.isDigit then rest.dropWhile Char.isDigit else text
  | _ => text

/-- A time of day; the result is what is left after it. -/
def timeOfDay : List Char → Option (List Char)
  | h₁ :: h₂ :: ':' :: m₁ :: m₂ :: ':' :: s₁ :: s₂ :: rest => do
    let hour ← fixedDigits? [h₁, h₂]
    let minute ← fixedDigits? [m₁, m₂]
    let second ← fixedDigits? [s₁, s₂]
    if hour ≤ 23 ∧ minute ≤ 59 ∧ second ≤ 60 then some (secondFraction rest) else none
  | _ => none

/-- An offset from universal time; the result is what is left after it. -/
def offset : List Char → Option (List Char)
  | 'Z' :: rest | 'z' :: rest => some rest
  | mark :: h₁ :: h₂ :: ':' :: m₁ :: m₂ :: rest => do
    let hour ← fixedDigits? [h₁, h₂]
    let minute ← fixedDigits? [m₁, m₂]
    if (mark = '+' ∨ mark = '-') ∧ hour ≤ 23 ∧ minute ≤ 59 then some rest else none
  | _ => none

/-- The time of day that may follow a date, and its offset. -/
def timeAfterDate (text : List Char) : List Char :=
  match text with
  | mark :: rest =>
    if mark = 'T' ∨ mark = 't' ∨ mark = ' ' then
      match timeOfDay rest with
      | some rest => (offset rest).getD rest
      | none => text
    else text
  | [] => []

/-- A date, a time of day or both. -/
def moment (text : List Char) : Option (Datum × List Char) := do
  let rest ← (date text).map timeAfterDate <|> timeOfDay text
  return (.moment (String.ofList (text.take (text.length - rest.length))), rest)

end CallAudio.Toml
