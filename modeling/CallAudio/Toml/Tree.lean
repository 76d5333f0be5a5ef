/-
  Tables of a TOML document while it is read.

  A table may be written in several places of a document, but is defined only once.  Which
  of its mentions may add to it depends on how it came about:

  * a header defines a table; another header may only add tables below it;
  * a longer header implies the tables on its way, and each may be defined later, once;
  * a dotted key makes the tables on its way; other dotted keys may add to them, headers
    may add tables below them, and nothing else may.

  `descend` walks to the table that a path leads to, making the tables on the way that are
  missing; `assign`, `openTable` and `openElement` are the three things a statement does
  there.
-/
import CallAudio.Datum.Basic

namespace CallAudio.Toml

/-- How a table came about. -/
inductive Origin where
  /-- By a header of its own. -/
  | defined
  /-- By the header of a table below it. -/
  | implied
  /-- By a dotted key. -/
  | dotted
deriving DecidableEq

/-- What a name stands for. -/
inductive Node where
  /-- A value, to which nothing can be added. -/
  | value (datum : Datum)
  /-- A table. -/
  | table (origin : Origin) (entries : List (String × Node))
  /-- A list of tables that have headers of their own, the latest first. -/
  | tables (elements : List (List (String × Node)))

/-- The entries of a table. -/
abbrev Entries := List (String × Node)

/-- The place of an entry: the tables on the way, and its name. -/
structure KeyPath where
  parents : List String
  last : String

mutual

/-- The datum of a node. -/
def Node.datum : Node → Datum
  | .value datum => datum
  | .table _ entries => .table (entryData entries)
  | .tables elements => .list (elementData elements).reverse

/-- The data of a table's entries. -/
def entryData : List (String × Node) → List (String × Datum)
  | [] => []
  | (name, node) :: entries => (name, node.datum) :: entryData entries

/-- The data of a list's tables. -/
def elementData : List (List (String × Node)) → List Datum
  | [] => []
  | element :: elements => .table (entryData element) :: elementData elements

end

namespace Entries

/-- Changes what `name` stands for; a name that is missing is added at the end. -/
def alter (name : String) (change : Option Node → Option Node) : Entries → Option Entries
  | [] => (change none).map fun node => [(name, node)]
  | (other, node) :: entries =>
    if other = name then (change (some node)).map fun node => (other, node) :: entries
    else (alter name change entries).map ((other, node) :: ·)

/-- Enters the table that a name stands for, to `act` in it.  A name that is missing gets a
    new table, of a list of tables the latest is entered, and a dotted key does not enter
    a table with a header of its own. -/
def enter (byDottedKey : Bool) (act : Origin → Entries → Option Entries) :
    Option Node → Option Node
  | none =>
    let origin := if byDottedKey then .dotted else .implied
    (act origin []).map (.table origin)
  | some (.value _) => none
  | some (.table origin entries) =>
    if byDottedKey ∧ origin = .defined then none
    else (act origin entries).map (.table origin)
  | some (.tables []) => none
  | some (.tables (element :: earlier)) =>
    (act .defined element).map fun element => .tables (element :: earlier)

/-- Walks to the table at the end of a path, to `act` in it. -/
def descend (byDottedKey : Bool) :
    List String → (Origin → Entries → Option Entries) → Origin → Entries → Option Entries
  | [], act, origin, entries => act origin entries
  | name :: names, act, _, entries =>
    entries.alter name (enter byDottedKey (descend byDottedKey names act))

/-- Adds a value under a new name. -/
def insertNew (name : String) (datum : Datum) : Entries → Option Entries :=
  alter name fun
    | none => some (.value datum)
    | some _ => none

/-- Gives the entry at a key path a value.  A dotted key adds to tables that dotted keys
    made, and a plain one to all others. -/
def assign (path : KeyPath) (datum : Datum) : Origin → Entries → Option Entries :=
  descend true path.parents fun origin entries =>
    if (origin = .dotted) = (path.parents = []) then none
    else entries.insertNew path.last datum

/-- Defines the table at a path. -/
def openTable (path : KeyPath) : Origin → Entries → Option Entries :=
  descend false path.parents fun _ entries =>
    entries.alter path.last fun
      | none => some (.table .defined [])
      | some (.table .implied entries) => some (.table .defined entries)
      | some _ => none

/-- Appends a table to the list of tables at a path. -/
def openElement (path : KeyPath) : Origin → Entries → Option Entries :=
  descend false path.parents fun _ entries =>
    entries.alter path.last fun
      | none => some (.tables [[]])
      | some (.tables elements) => some (.tables ([] :: elements))
      | some _ => none

end Entries

end CallAudio.Toml
