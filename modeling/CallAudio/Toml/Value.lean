/-
  Keys and values of TOML.

  The readers of lists and of tables in braces are given the reader of their items; `value`
  ties the knot, its first argument bounding how deep values nest.
-/
import CallAudio.Toml.Moment
import CallAudio.Toml.Number
import CallAudio.Toml.Tree

namespace CallAudio.Toml

/-- How deep values may nest, and how many parts a key may have. -/
def nestingLimit : Nat := 79

/-- Whether a character may stand in a key without quotes. -/
def isBare (c : Char) : Bool := c.isAlphanum || c = '-' || c = '_'

/-- One part of a key. -/
def simpleKey (text : List Char) : Option (String × List Char) :=
  match text.span isBare with
  | ([], text) => quotedLine text
  | (name, rest) => some (String.ofList name, rest)

/-- A key of at most as many parts as the first argument says, and the blanks around it. -/
def keyWithin : Nat → List Char → Option (KeyPath × List Char)
  | 0, _ => none
  | parts + 1, text => do
    let (name, rest) ← simpleKey (skipBlanks text)
    match skipBlanks rest with
    | '.' :: rest => do
      let (path, rest) ← keyWithin parts rest
      return ({ path with parents := name :: path.parents }, rest)
    | rest => return (⟨[], name⟩, rest)

/-- A key, and the blanks around it. -/
def key : List Char → Option (KeyPath × List Char) := keyWithin nestingLimit

/-- A value that holds no other values. -/
def scalar (text : List Char) : Option (Datum × List Char) :=
  match text with
  | 't' :: 'r' :: 'u' :: 'e' :: rest => some (.bool true, rest)
  | 'f' :: 'a' :: 'l' :: 's' :: 'e' :: rest => some (.bool false, rest)
  | '\"' :: _ | '\'' :: _ => (quoted text).map fun (value, rest) => (.text value, rest)
  | text => moment text <|> number text

/-- A key, an equals sign and a value. -/
def assignment (read : List Char → Option (Datum × List Char)) (text : List Char) :
    Option ((KeyPath × Datum) × List Char) := do
  let (path, rest) ← key text
  match rest with
  | '=' :: rest => do
    let (datum, rest) ← read (skipBlanks rest)
    return ((path, datum), rest)
  | _ => none

/-- The items of a list, from the first item or the closing bracket on.  A comma may follow
    the last item. -/
def items (read : List Char → Option (Datum × List Char)) :
    Nat → List Char → Option (List Datum × List Char)
  | 0, _ => none
  | fuel + 1, text =>
    match skipTrivia text with
    | ']' :: rest => some ([], rest)
    | text => do
      let (item, rest) ← read text
      match skipTrivia rest with
      | ']' :: rest => some ([item], rest)
      | ',' :: rest => do
        let (items, rest) ← items read fuel rest
        return (item :: items, rest)
      | _ => none

/-- The entries of a table in braces, from an entry on.  It is written on one line, and no
    comma follows the last entry. -/
def bracedEntries (read : List Char → Option (Datum × List Char)) :
    Nat → Entries → List Char → Option (Entries × List Char)
  | 0, _, _ => none
  | fuel + 1, entries, text => do
    let ((path, datum), rest) ← assignment read text
    let entries ← entries.assign path datum .defined
    match skipBlanks rest with
    | '}' :: rest => some (entries, rest)
    | ',' :: rest => bracedEntries read fuel entries rest
    | _ => none

/-- A table in braces, after its opening brace. -/
def braced (read : List Char → Option (Datum × List Char)) (text : List Char) :
    Option (Datum × List Char) :=
  match skipBlanks text with
  | '}' :: rest => some (.table [], rest)
  | text => do
    let (entries, rest) ← bracedEntries read text.length [] text
    return (.table (entryData entries), rest)

/-- A value that nests at most as deep as the first argument says. -/
def valueWithin : Nat → List Char → Option (Datum × List Char)
  | 0, text => scalar text
  | depth + 1, text =>
    match text with
    | '[' :: rest => do
      let (items, rest) ← items (valueWithin depth) text.length rest
      return (.list items, rest)
    | '{' :: rest => braced (valueWithin depth) rest
    | text => scalar text

/-- A value. -/
def value : List Char → Option (Datum × List Char) := valueWithin nestingLimit

end CallAudio.Toml
