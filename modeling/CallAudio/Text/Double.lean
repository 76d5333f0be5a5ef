/-
  Doubles as text.

  A double is a sign and a mantissa times a power of two, or it is infinite, or no number.

  * `Double.ofText?`: the double nearest to a decimal number;
  * `Double.text`: the fewest digits that read back as the same double, without exponent.

  Both compare whole numbers only, so nothing is lost on the way.
-/

namespace CallAudio.Text

/-- A double. -/
inductive Double where
  | finite (negative : Bool) (mantissa : Nat) (exponent : Int)
  | infinite (negative : Bool)
  | nan
deriving DecidableEq, Inhabited

/-- A positive fraction. -/
structure Fraction where
  numerator : Nat
  denominator : Nat
deriving DecidableEq, Inhabited

namespace Fraction

/-- `mantissa` times `base` to the power `exponent`. -/
def scaled (mantissa base : Nat) (exponent : Int) : Fraction :=
  ⟨mantissa * base.pow exponent.toNat, base.pow (-exponent).toNat⟩

/-- The order of fractions. -/
def compare (a b : Fraction) : Ordering :=
  Ord.compare (a.numerator * b.denominator) (b.numerator * a.denominator)

/-- The whole part of a quotient. -/
def quotient (a b : Fraction) : Nat :=
  a.numerator * b.denominator / (b.numerator * a.denominator)

/-- A quotient rounded to the nearest whole number, of two the even one. -/
def nearestQuotient (a b : Fraction) : Nat :=
  let below := a.quotient b
  let twice := 2 * (a.numerator * b.denominator)
  match Ord.compare twice ((2 * below + 1) * (b.numerator * a.denominator)) with
  | .lt => below
  | .gt => below + 1
  | .eq => below + below % 2

/-- The greatest power of `base` that is not above the fraction, which is not zero: its
    exponent, where `size` counts the digits of a number to that base. -/
def magnitude (a : Fraction) (base : Nat) (size : Nat → Nat) : Int :=
  let guess : Int := (size a.numerator : Int) - size a.denominator
  if a.compare (scaled 1 base guess) = .lt then guess - 1 else guess

end Fraction

/-- The number of decimal digits. -/
def decimalSize (n : Nat) : Nat := (Nat.toDigits 10 n).length

namespace Double

/-- The least exponent of a double. -/
def minExponent : Int := -1074

/-- The largest exponent of a double. -/
def maxExponent : Int := 971

/-- The double nearest to a fraction that is not zero. -/
def nearest (negative : Bool) (value : Fraction) : Double :=
  let exponent := max (value.magnitude 2 Nat.log2 - 52) minExponent
  let mantissa := value.nearestQuotient (.scaled 1 2 exponent)
  let (mantissa, exponent) :=
    if mantissa = 1 <<< 53 then (1 <<< 52, exponent + 1) else (mantissa, exponent)
  if exponent > maxExponent then .infinite negative else .finite negative mantissa exponent

/-- The double nearest to `mantissa` times ten to the power `exponent`.  Where the number of
    digits settles it no power is computed. -/
def ofDecimal (negative : Bool) (mantissa : Nat) (exponent : Int) : Double :=
  let size := decimalSize mantissa + exponent
  if mantissa = 0 ∨ size < -330 then .finite negative 0 minExponent
  else if size > 330 then .infinite negative
  else nearest negative (.scaled mantissa 10 exponent)

/-! ## Reading -/

/-- A sign, if there is one: whether it is a minus. -/
def sign : List Char → Bool × List Char
  | '-' :: rest => (true, rest)
  | '+' :: rest => (false, rest)
  | text => (false, text)

/-- The exponent that a text after a mantissa gives. -/
def exponent? : List Char → Option Int
  | [] => some 0
  | mark :: rest =>
    let (negative, digits) := sign rest
    if (mark = 'e' ∨ mark = 'E') ∧ digits ≠ [] ∧ digits.all Char.isDigit then
      let size : Int := Nat.ofDigitChars 10 digits 0
      some (if negative then -size else size)
    else none

/-- The digits of a fraction and what follows it, if there is one. -/
def fraction : List Char → List Char × List Char
  | '.' :: rest => rest.span Char.isDigit
  | text => ([], text)

/-- A decimal number without sign.  Digits may be missing on one side of the point. -/
def unsigned? (negative : Bool) (text : List Char) : Option Double :=
  let (whole, rest) := text.span Char.isDigit
  let (part, rest) := fraction rest
  if whole.isEmpty && part.isEmpty then none
  else
    (exponent? rest).map fun exponent =>
      ofDecimal negative (Nat.ofDigitChars 10 (whole ++ part) 0) (exponent - part.length)

/-- A decimal number, `inf`, `infinity` or `nan`, the words in any case; a sign may stand in
    front. -/
def ofText? (text : List Char) : Option Double :=
  let (negative, rest) := sign text
  let word := String.ofList (rest.map Char.toLower)
  if word = "inf" ∨ word = "infinity" then some (.infinite negative)
  else if word = "nan" then some .nan
  else unsigned? negative rest

/-! ## Writing -/

/-- Whether a fraction reads back as `mantissa` times two to the power `exponent`: whether it
    lies halfway to the neighbours at most, less than halfway if the mantissa is odd.  Below
    a power of two the neighbour is half as far away. -/
def readsBack (mantissa : Nat) (exponent : Int) (value : Fraction) : Bool :=
  let narrow := mantissa = 1 <<< 52 && exponent > minExponent
  let low := Fraction.scaled (4 * mantissa - (if narrow then 1 else 2)) 2 (exponent - 2)
  let high := Fraction.scaled (4 * mantissa + 2) 2 (exponent - 2)
  let even := mantissa % 2 = 0
  let below := value.compare low
  let above := value.compare high
  (below = .gt || (even && below = .eq)) && (above = .lt || (even && above = .eq))

/-- The number on the grid of the powers ten to `grid` that reads back as a double, if there
    is one.  Of two the nearer is taken, the larger if both are equally near. -/
def onGrid? (mantissa : Nat) (exponent grid : Int) : Option Nat :=
  let value := Fraction.scaled mantissa 2 exponent
  let low := value.quotient (.scaled 1 10 grid)
  let hits := [low, low + 1].filter fun n =>
    readsBack mantissa exponent (.scaled n 10 grid)
  match hits with
  | [low, high] =>
    let middle := Fraction.scaled (5 * (2 * low + 1)) 10 (grid - 1)
    some (if value.compare middle = .lt then low else high)
  | [n] => some n
  | _ => none

/-- The fewest digits that read back as a double other than zero: a whole number and the
    power of ten that it is multiplied by.  If seventeen digits did not, it would be the
    double itself, all digits of it. -/
def shortest (mantissa : Nat) (exponent : Int) : Nat × Int :=
  let value := Fraction.scaled mantissa 2 exponent
  let size := value.magnitude 10 decimalSize + 1
  let found := (List.range' 1 17).findSome? fun (count : Nat) =>
    let grid := size - count
    (onGrid? mantissa exponent grid).map (·, grid)
  found.getD (mantissa <<< exponent.toNat * Nat.pow 5 (-exponent).toNat, min exponent 0)

/-- A whole number times a power of ten, without exponent. -/
def positional (digits : List Char) (exponent : Int) : List Char :=
  match exponent with
  | .ofNat zeros => digits ++ List.replicate zeros '0'
  | .negSucc places =>
    let places := places + 1
    let padded := List.replicate (places + 1 - digits.length) '0' ++ digits
    let whole := padded.take (padded.length - places)
    whole ++ '.' :: padded.drop (padded.length - places)

/-- The text of a double. -/
def text : Double → String
  | nan => "NaN"
  | infinite negative => if negative then "-inf" else "inf"
  | finite negative mantissa exponent =>
    let digits :=
      if mantissa = 0 then ['0']
      else
        let (n, power) := shortest mantissa exponent
        let digits := Nat.toDigits 10 n
        let zeros := (digits.reverse.takeWhile (· = '0')).length
        positional (digits.take (digits.length - zeros)) (power + zeros)
    String.ofList (if negative then '-' :: digits else digits)

/-- Whether two doubles are equal as numbers: both zeros are. -/
def sameNumber : Double → Double → Bool
  | finite _ 0 _, finite _ 0 _ => true
  | a, b => a = b

end Double

end CallAudio.Text
