/-
  Fields that a span must have.

  A filter may ask for a field by name, and for its value too.  A value is taken for the
  first of these that it can be: a truth value, a number of 64 bits without sign or with
  one, a double, a pattern.
-/
import CallAudio.Text.Digits
import CallAudio.Text.Double
import CallAudio.Tool.Pattern

namespace CallAudio

/-- A value that a field is compared with. -/
inductive FieldValue where
  | truth (value : Bool)
  | natural (value : Nat)
  | integer (value : Int)
  | real (value : Text.Double)
  | pattern (text : String)
deriving DecidableEq, Inhabited

namespace FieldValue

/-- A number of 64 bits without sign. -/
def natural? (text : List Char) : Option Nat := (Text.number? text).filter (· < UInt64.size)

/-- A number of 64 bits below zero, or a zero with a minus.  Those without a minus are read
    as numbers without sign. -/
def integer? : List Char → Option Int
  | '-' :: text => ((Text.decimal? text).filter (· ≤ UInt64.size / 2)).map fun n => -(n : Int)
  | _ => none

/-- A truth value or a number. -/
def plain? (text : List Char) : Option FieldValue :=
  if text = "true".toList then some (truth true)
  else if text = "false".toList then some (truth false)
  else
    ((natural? text).map natural).or <| ((integer? text).map integer).or <|
      (Text.Double.ofText? text).map real

/-- A value from its text.  What is neither a truth value nor a number must be a pattern. -/
def ofText (text : List Char) : Except PatternError FieldValue :=
  match plain? text with
  | some value => .ok value
  | none => (Pattern.check text).map fun _ => pattern (String.ofList text)

/-- The text of a value. -/
def text : FieldValue → String
  | truth value => if value then "true" else "false"
  | natural value => String.ofList (Nat.toDigits 10 value)
  | integer value =>
    String.ofList ((if value < 0 then ['-'] else []) ++ Nat.toDigits 10 value.natAbs)
  | real value => value.text
  | pattern text => text

/-- Whether two values are compared with alike. -/
def alike : FieldValue → FieldValue → Bool
  | real a, real b => a.sameNumber b
  | a, b => a = b

end FieldValue

/-- A field that a span must have. -/
structure FieldMatch where
  name : String
  /-- The value it must have, if that matters. -/
  value : Option FieldValue
deriving DecidableEq, Inhabited

namespace FieldMatch

/-- A field from its text: a name and, after an equals sign, a value.  What follows another
    equals sign does not matter. -/
def ofText (text : List Char) : Except PatternError FieldMatch :=
  match text.span (· != '=') with
  | (name, _ :: value) =>
    (FieldValue.ofText (value.takeWhile (· != '='))).map fun value =>
      { name := String.ofList name, value := some value }
  | (name, []) => .ok { name := String.ofList name, value := none }

/-- The text of a field. -/
def text (field : FieldMatch) : String :=
  match field.value with
  | some value => field.name ++ "=" ++ value.text
  | none => field.name

/-- Whether two fields ask for the same. -/
def alike (a b : FieldMatch) : Bool :=
  a.name = b.name &&
    match a.value, b.value with
    | some a, some b => a.alike b
    | none, none => true
    | _, _ => false

end FieldMatch

end CallAudio
