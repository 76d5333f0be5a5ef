/-
  Structured data: what a configuration file, a script or a report is made of.

  A datum is read from, or written as, one of two formats.  They differ in how a tag that
  carries nothing is spelled as a one-entry table, and in whether a record given by
  position may be followed by further items; `Format` keeps the two apart.

  * `Datum`: structured data;
  * `Datum.find?`, `Datum.record?`, `Datum.tag?`: the three ways in which decoders look
    into a datum;
  * `Datum.text?`, `Datum.bool?`, `Datum.natBelow?`, `Datum.listOf?`: plain values.
-/

namespace CallAudio

/-- Structured data. -/
inductive Datum where
  /-- The absence of a value. -/
  | null
  | bool (value : Bool)
  | integer (value : Int)
  /-- A number with a fraction or an exponent, as it was written. -/
  | real (literal : String)
  | text (value : String)
  /-- A date, a time of day or both, as it was written. -/
  | moment (literal : String)
  | list (items : List Datum)
  /-- Named entries, no name twice. -/
  | table (entries : List (String × Datum))
deriving Inhabited

/-- The formats in which data is written. -/
inductive Format where
  | json
  | toml
deriving DecidableEq, Inhabited

/-- Whether a record given by position may have items beyond its last field. -/
def Format.ignoresSurplus : Format → Bool
  | .json => false
  | .toml => true

namespace Datum

/-- The entry of a given name. -/
def find? (entries : List (String × Datum)) (name : String) : Option Datum :=
  entries.lookup name

/-- Whether the datum stands for "nothing more" behind a tag. -/
def isUnit : Format → Datum → Bool
  | .json, null => true
  | .toml, list [] | .toml, table [] => true
  | _, _ => false

/-- A tag that carries nothing: its name, or a table whose one entry has that name. -/
def tag? (format : Format) : Datum → Option String
  | text name => some name
  | table [(name, value)] => if value.isUnit format then some name else none
  | _ => none

/-- The fields of a record, in the order of `names`.  A record is a table, where unknown
    names do not matter, or the list of its fields, where the last ones may be missing.
    A moment is a table too, but of none of our names. -/
def record? (format : Format) (names : List String) : Datum → Option (List (Option Datum))
  | table entries => some (names.map (find? entries))
  | moment _ => some (names.map fun _ => none)
  | list items =>
    if items.length ≤ names.length || format.ignoresSurplus then
      some ((List.range names.length).map (items[·]?))
    else none
  | _ => none

/-- A text. -/
def text? : Datum → Option String
  | text value => some value
  | _ => none

/-- A truth value. -/
def bool? : Datum → Option Bool
  | bool value => some value
  | _ => none

/-- A whole number from 0 up to, but not including, `bound`. -/
def natBelow? (bound : Nat) : Datum → Option Nat
  | integer (.ofNat n) => if n < bound then some n else none
  | _ => none

/-- A list whose items are all read by `read`. -/
def listOf? {α : Type} (read : Datum → Option α) : Datum → Option (List α)
  | list items => items.mapM read
  | _ => none

/-- A field that may be missing: `fallback` then, and what `read` makes of it if not. -/
def orElse {α : Type} (fallback : α) (read : Datum → Option α) : Option Datum → Option α
  | none => some fallback
  | some datum => read datum

theorem natBelow?_integer {bound n : Nat} (h : n < bound) :
    (integer n).natBelow? bound = some n :=
  if_pos h

theorem lt_of_natBelow? {bound n : Nat} {datum : Datum} (h : datum.natBelow? bound = some n) :
    n < bound := by
  unfold natBelow? at h
  split at h
  · split at h
    · cases h; assumption
    · cases h
  · cases h

end Datum

end CallAudio
