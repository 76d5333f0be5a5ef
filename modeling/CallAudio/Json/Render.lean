/-
  Compact JSON text.

  No blanks are written.  In a text only the quote, the backslash and the control
  characters below U+0020 are escaped, so a rendered datum never holds a line break and
  is one line of a report.
-/
import CallAudio.Datum.Basic

namespace CallAudio.Json

/-- A control character as `\u00xx`. -/
def escapeControl (c : Char) : List Char :=
  ['\\', 'u', '0', '0', (c.toNat / 16).digitChar, (c.toNat % 16).digitChar]

/-- A character of a text. -/
def escape (c : Char) : List Char :=
  if c = '\"' then ['\\', '\"']
  else if c = '\\' then ['\\', '\\']
  else if c = '\x08' then ['\\', 'b']
  else if c = '\t' then ['\\', 't']
  else if c = '\n' then ['\\', 'n']
  else if c = '\x0c' then ['\\', 'f']
  else if c = '\r' then ['\\', 'r']
  else if c.toNat < 32 then escapeControl c
  else [c]

/-- A text in quotes. -/
def quote (text : String) : List Char :=
  '\"' :: text.toList.flatMap escape ++ ['\"']

/-- A whole number in decimal digits. -/
def renderInt : Int → List Char
  | .ofNat n => Nat.toDigits 10 n
  | .negSucc n => '-' :: Nat.toDigits 10 (n + 1)

/-- Joins parts with commas. -/
def joinCommas : List (List Char) → List Char
  | [] => []
  | [part] => part
  | part :: parts => part ++ ',' :: joinCommas parts

mutual

/-- A datum as compact JSON text.  A moment has no form of its own in JSON and is written
    as a text. -/
def render : Datum → List Char
  | .null => ['n', 'u', 'l', 'l']
  | .bool true => ['t', 'r', 'u', 'e']
  | .bool false => ['f', 'a', 'l', 's', 'e']
  | .integer value => renderInt value
  | .real literal => literal.toList
  | .text value => quote value
  | .moment literal => quote literal
  | .list items => '[' :: joinCommas (renderItems items) ++ [']']
  | .table entries => '{' :: joinCommas (renderEntries entries) ++ ['}']

/-- The items of a list. -/
def renderItems : List Datum → List (List Char)
  | [] => []
  | item :: items => render item :: renderItems items

/-- The entries of a table. -/
def renderEntries : List (String × Datum) → List (List Char)
  | [] => []
  | (name, value) :: entries => (quote name ++ ':' :: render value) :: renderEntries entries

end

end CallAudio.Json

namespace CallAudio

/-- The datum as one line of JSON. -/
def Datum.toJson (datum : Datum) : String := String.ofList (Json.render datum)

end CallAudio
