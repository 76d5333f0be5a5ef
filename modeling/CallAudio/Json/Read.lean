/-
  Reading JSON text.

  Every reader takes the characters that are left and returns what it read together with
  what is left then, or `none` if the text is not of its form.  The readers of lists and
  tables are given the reader of their items; `value` ties the knot, its first argument
  bounding how deep the text nests, for which the text's length is always enough.

  A number is an integer exactly if it is written without fraction and exponent; `-0` is
  a real, since no integer is written that way.  Of two entries of a table with the same
  name the later one counts.
-/
import CallAudio.Datum.Basic
import CallAudio.Text.Digits

namespace CallAudio.Json

/-- Whether a character separates tokens. -/
def isBlank (c : Char) : Bool := c = ' ' || c = '\t' || c = '\n' || c = '\r'

/-- Skips blanks. -/
def skipBlanks (text : List Char) : List Char := text.dropWhile isBlank

/-- The character that `\` and a letter stand for. -/
def shortEscape? (c : Char) : Option Char :=
  match c with
  | '\"' => some '\"'
  | '\\' => some '\\'
  | '/' => some '/'
  | 'b' => some '\x08'
  | 'f' => some '\x0c'
  | 'n' => some '\n'
  | 'r' => some '\r'
  | 't' => some '\t'
  | _ => none

/-- The code point of a surrogate pair, if the two units are one. -/
def joinSurrogates? (high low : Nat) : Option Nat :=
  if 0xD800 ≤ high ∧ high < 0xDC00 ∧ 0xDC00 ≤ low ∧ low < 0xE000 then
    some (0x10000 + (high - 0xD800) * 0x400 + (low - 0xDC00))
  else none

/-- Puts a code point in front of those that were read. -/
def consCode (code : Option Nat) (read : Option (List Nat × List Char)) :
    Option (List Nat × List Char) := do
  let code ← code
  let (codes, rest) ← read
  return (code :: codes, rest)

/-- The code points of a text up to its closing quote.  An escape may stand for one half of
    a surrogate pair. -/
def quoted : List Char → Option (List Nat × List Char)
  | [] => none
  | '\"' :: rest => some ([], rest)
  | '\\' :: 'u' :: a :: b :: c :: d :: rest => consCode (Text.hexValue? [a, b, c, d]) (quoted rest)
  | '\\' :: c :: rest => consCode ((shortEscape? c).map Char.toNat) (quoted rest)
  | c :: rest => if c.toNat < 32 then none else consCode (some c.toNat) (quoted rest)

/-- The characters of a sequence of code points in which surrogates stand in pairs. -/
def joinCodes : List Nat → Option (List Char)
  | [] => some []
  | [code] => (Text.charOf? code).map ([·])
  | code :: next :: codes =>
    match joinSurrogates? code next with
    | some joined => do return (← Text.charOf? joined) :: (← joinCodes codes)
    | none => do return (← Text.charOf? code) :: (← joinCodes (next :: codes))

/-- A text after its opening quote. -/
def string (text : List Char) : Option (String × List Char) := do
  let (codes, rest) ← quoted text
  let chars ← joinCodes codes
  return (String.ofList chars, rest)

/-- One digit or more. -/
def digits (text : List Char) : Option (List Char × List Char) :=
  match text.span Char.isDigit with
  | ([], _) => none
  | (digits, rest) => some (digits, rest)

/-- The digits of a whole number: no zero in front of others. -/
def wholeDigits (text : List Char) : Option (List Char × List Char) :=
  match digits text with
  | some ('0' :: _ :: _, _) => none
  | result => result

/-- A fraction, if there is one, as it is written. -/
def fraction (text : List Char) : Option (List Char × List Char) :=
  match text with
  | '.' :: rest => do
    let (ds, rest) ← digits rest
    return ('.' :: ds, rest)
  | text => some ([], text)

/-- An exponent, if there is one, as it is written. -/
def exponent (text : List Char) : Option (List Char × List Char) :=
  match text with
  | mark :: rest =>
    if mark = 'e' ∨ mark = 'E' then
      let (sign, rest) := rest.span fun c => c = '+' || c = '-'
      if sign.length ≤ 1 then do
        let (ds, rest) ← digits rest
        return (mark :: (sign ++ ds), rest)
      else none
    else some ([], text)
  | [] => some ([], [])

/-- A number. -/
def number (text : List Char) : Option (Datum × List Char) := do
  let (sign, rest) := match text with
    | '-' :: rest => (['-'], rest)
    | text => ([], text)
  let (whole, rest) ← wholeDigits rest
  let (part, rest) ← fraction rest
  let (power, rest) ← exponent rest
  let magnitude := Nat.ofDigitChars 10 whole 0
  let datum := match sign, part, power with
    | [], [], [] => .integer magnitude
    | _, [], [] =>
      if magnitude = 0 then .real (String.ofList (sign ++ whole)) else .integer (-magnitude)
    | _, _, _ => .real (String.ofList (sign ++ whole ++ part ++ power))
  return (datum, rest)

/-- The items of a list after the first one. -/
def itemsTail (read : List Char → Option (Datum × List Char)) :
    Nat → List Char → Option (List Datum × List Char)
  | 0, _ => none
  | fuel + 1, text =>
    match skipBlanks text with
    | ']' :: rest => some ([], rest)
    | ',' :: rest => do
      let (item, rest) ← read rest
      let (items, rest) ← itemsTail read fuel rest
      return (item :: items, rest)
    | _ => none

/-- A list after its opening bracket. -/
def items (read : List Char → Option (Datum × List Char)) (fuel : Nat) (text : List Char) :
    Option (List Datum × List Char) :=
  match skipBlanks text with
  | ']' :: rest => some ([], rest)
  | text => do
    let (item, rest) ← read text
    let (items, rest) ← itemsTail read fuel rest
    return (item :: items, rest)

/-- An entry of a table. -/
def entry (read : List Char → Option (Datum × List Char)) (text : List Char) :
    Option ((String × Datum) × List Char) :=
  match skipBlanks text with
  | '\"' :: rest => do
    let (name, rest) ← string rest
    match skipBlanks rest with
    | ':' :: rest => do
      let (value, rest) ← read rest
      return ((name, value), rest)
    | _ => none
  | _ => none

/-- Puts an entry in front of later ones, unless one of them replaces it. -/
def putEntry (entry : String × Datum) (entries : List (String × Datum)) :
    List (String × Datum) :=
  if entries.any (·.1 = entry.1) then entries else entry :: entries

/-- The entries of a table after the first one. -/
def entriesTail (read : List Char → Option (Datum × List Char)) :
    Nat → List Char → Option (List (String × Datum) × List Char)
  | 0, _ => none
  | fuel + 1, text =>
    match skipBlanks text with
    | '}' :: rest => some ([], rest)
    | ',' :: rest => do
      let (first, rest) ← entry read rest
      let (entries, rest) ← entriesTail read fuel rest
      return (putEntry first entries, rest)
    | _ => none

/-- A table after its opening brace. -/
def entries (read : List Char → Option (Datum × List Char)) (fuel : Nat) (text : List Char) :
    Option (List (String × Datum) × List Char) :=
  match skipBlanks text with
  | '}' :: rest => some ([], rest)
  | text => do
    let (first, rest) ← entry read text
    let (entries, rest) ← entriesTail read fuel rest
    return (putEntry first entries, rest)

/-- A value, blanks before it skipped. -/
def value : Nat → List Char → Option (Datum × List Char)
  | 0, _ => none
  | fuel + 1, text =>
    match skipBlanks text with
    | 'n' :: 'u' :: 'l' :: 'l' :: rest => some (.null, rest)
    | 't' :: 'r' :: 'u' :: 'e' :: rest => some (.bool true, rest)
    | 'f' :: 'a' :: 'l' :: 's' :: 'e' :: rest => some (.bool false, rest)
    | '\"' :: rest => (string rest).map fun (value, rest) => (.text value, rest)
    | '[' :: rest => (items (value fuel) fuel rest).map fun (items, rest) => (.list items, rest)
    | '{' :: rest =>
      (entries (value fuel) fuel rest).map fun (entries, rest) => (.table entries, rest)
    | text => number text

end CallAudio.Json

namespace CallAudio

/-- The datum that a JSON text holds. -/
def Datum.ofJson? (text : String) : Option Datum := do
  let chars := text.toList
  let (datum, rest) ← Json.value (chars.length + 1) chars
  if (Json.skipBlanks rest).isEmpty then return datum else none

end CallAudio
