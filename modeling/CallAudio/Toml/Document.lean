/-
  Documents of TOML.

  A document is a sequence of statements, one a line.  A header says which table the
  assignments that follow are about.

  * `Statement`, `statement`: what a line says, and the reader of it;
  * `Document.run`: the effect of a statement;
  * `Datum.ofToml?`: the datum that a document holds.
-/
import CallAudio.Toml.Value

namespace CallAudio.Toml

/-- What a line of a document says. -/
inductive Statement where
  /-- Nothing. -/
  | blank
  /-- An entry has a value. -/
  | assign (path : KeyPath) (datum : Datum)
  /-- What follows is about a table defined here. -/
  | header (path : KeyPath)
  /-- What follows is about one more table of a list of tables. -/
  | elementHeader (path : KeyPath)

/-- A statement, without the end of its line. -/
def statement (text : List Char) : Option (Statement × List Char) :=
  match text with
  | '#' :: _ | '\n' :: _ | '\r' :: _ => some (.blank, text)
  | '[' :: '[' :: rest => do
    let (path, rest) ← key rest
    match rest with
    | ']' :: ']' :: rest => some (.elementHeader path, rest)
    | _ => none
  | '[' :: rest => do
    let (path, rest) ← key rest
    match rest with
    | ']' :: rest => some (.header path, rest)
    | _ => none
  | text => do
    let ((path, datum), rest) ← assignment value text
    return (.assign path datum, rest)

/-- The statements of a document of at most as many lines as the first argument says. -/
def statements : Nat → List Char → Option (List Statement)
  | 0, _ => none
  | fuel + 1, text =>
    match skipBlanks text with
    | [] => some []
    | text => do
      let (first, rest) ← statement text
      let rest ← endOfLine rest
      return first :: (← statements fuel rest)

/-- A document while it is read. -/
structure Document where
  /-- The entries of the outermost table. -/
  root : Entries := []
  /-- The way to the table that assignments are about. -/
  current : List String := []

namespace Document

/-- The effect of a statement; `none` if it breaks a rule of tables. -/
def run (document : Document) : Statement → Option Document
  | .blank => some document
  | .assign path datum => do
    let root ← document.root.descend false document.current
      (Entries.assign path datum · ·) .defined
    return { document with root := root }
  | .header path => do
    return { root := ← document.root.openTable path .defined
             current := path.parents ++ [path.last] }
  | .elementHeader path => do
    return { root := ← document.root.openElement path .defined
             current := path.parents ++ [path.last] }

end Document

/-- Skips the mark with which a document in UTF-8 may begin. -/
def skipByteOrderMark : List Char → List Char
  | '\uFEFF' :: rest => rest
  | text => text

end CallAudio.Toml

namespace CallAudio

/-- The table that a TOML document holds. -/
def Datum.ofToml? (text : String) : Option Datum := do
  let chars := Toml.skipByteOrderMark text.toList
  let statements ← Toml.statements (chars.length + 1) chars
  let document ← statements.foldlM Toml.Document.run {}
  return .table (Toml.entryData document.root)

end CallAudio
