/-
  File names in messages.

  A name stands in quotes.  Quotes and backslashes are escaped, and so is every character
  that does not show by itself.
-/
import CallAudio.Text.Unseen

namespace CallAudio

/-- A character by its code point. -/
def escapeCode (c : Char) : List Char :=
  ['\\', 'u', '{'] ++ Nat.toDigits 16 c.toNat ++ ['}']

/-- A character of a file name. -/
def escapePathChar (c : Char) : List Char :=
  match c with
  | '\"' => ['\\', '\"']
  | '\\' => ['\\', '\\']
  | '\x00' => ['\\', '0']
  | '\t' => ['\\', 't']
  | '\n' => ['\\', 'n']
  | '\r' => ['\\', 'r']
  | c => if Text.isUnseen c then escapeCode c else [c]

/-- A file name in quotes. -/
def quotePath (path : String) : String :=
  String.ofList ('\"' :: path.toList.flatMap escapePathChar ++ ['\"'])

end CallAudio
