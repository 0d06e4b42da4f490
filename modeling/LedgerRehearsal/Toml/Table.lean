import LedgerRehearsal.Toml.Value

/-!
Building the tables of a document. A table is defined once: by its header, or by the dotted keys
that lead through it. A table that is only passed on the way to another one may still be given a
header, and dotted keys may add to it further down; no key is ever given two values.
-/

namespace LedgerRehearsal.Toml

/-- How a table came about. -/
inductive Origin where
  /-- By a header of its own. -/
  | header
  /-- On the way to the table of another header. -/
  | passed
  /-- On the way of a dotted key. -/
  | dotted
deriving DecidableEq, Repr

inductive Entry where
  | value (value : Value)
  | table (origin : Origin) (entries : List (String × Entry))
  /-- An array of tables, each with a header of its own. -/
  | tables (items : List (List (String × Entry)))

/-- A table that is being built. -/
abbrev Table := List (String × Entry)

namespace Table

def empty : Table := []

/-- Sets the entry of a key, at its place if it has one. -/
def set (key : String) (entry : Entry) (table : Table) : Table :=
  if (table.lookup key).isSome then
    table.map fun member => if member.1 = key then (key, entry) else member
  else table ++ [(key, entry)]

/-- Gives a key of a table its value, which it must not have yet. -/
def assignHere (key : String) (value : Value) (table : Table) : Option Table :=
  if (table.lookup key).isSome then none else some (table.set key (.value value))

/-- Changes the last of the tables of an array. -/
def updateLast (change : Table → Option Table) : List Table → Option (List Table)
  | [] => none
  | [last] => (change last).map ([·])
  | first :: rest => (updateLast change rest).map (first :: ·)

/-- Follows a dotted key through tables that have no header of their own and gives its last part
the value. The table that takes the value must come from dotted keys alone, unless it is the one
from which the key starts. -/
def assignFrom (inner : Bool) : (key : List String) → Value → Origin → Table → Option Table
  | [], _, _, _ => none
  | [name], value, origin, table =>
    if inner ∧ origin ≠ .dotted then none else table.assignHere name value
  | name :: key, value, _, table =>
    match table.lookup name with
    | none => (assignFrom true key value .dotted empty).map fun entries =>
      table.set name (.table .dotted entries)
    | some (.table .header _) | some (.value _) => none
    | some (.table origin entries) => (assignFrom true key value origin entries).map fun entries =>
      table.set name (.table origin entries)
    | some (.tables items) => (updateLast (assignFrom true key value .header) items).map fun items =>
      table.set name (.tables items)

/-- Gives the last part of a key its value. -/
def assign (table : Table) (key : List String) (value : Value) : Option Table :=
  assignFrom false key value .header table

/-- Changes the table at a path of headers; tables on the way are made where there are none, and of
an array of tables the last one is meant. -/
def update : Table → (path : List String) → (Table → Option Table) → Option Table
  | table, [], change => change table
  | table, name :: path, change =>
    match table.lookup name with
    | none => (update empty path change).map fun entries => table.set name (.table .passed entries)
    | some (.value _) => none
    | some (.table origin entries) => (update entries path change).map fun entries =>
      table.set name (.table origin entries)
    | some (.tables items) => (updateLast (fun entries => update entries path change) items).map
      fun items => table.set name (.tables items)

/-- Defines a table by its header. -/
def openTable (table : Table) (path : List String) : Option Table :=
  match path.getLast? with
  | none => none
  | some name => table.update path.dropLast fun parent =>
    match parent.lookup name with
    | none => some (parent.set name (.table .header []))
    | some (.table .passed entries) => some (parent.set name (.table .header entries))
    | some _ => none

/-- Adds an item to an array of tables by its header. -/
def openItem (table : Table) (path : List String) : Option Table :=
  match path.getLast? with
  | none => none
  | some name => table.update path.dropLast fun parent =>
    match parent.lookup name with
    | none => some (parent.set name (.tables [[]]))
    | some (.tables items) => some (parent.set name (.tables (items ++ [[]])))
    | some _ => none

/-- The table of the assignments of an inline table. -/
def ofAssignments (assignments : List (List String × Value)) : Option Table :=
  assignments.foldlM (fun table (key, value) => table.assign key value) empty

mutual

def entryValue : Entry → Value
  | .value value => value
  | .table _ entries => .table (entryValues entries)
  | .tables items => .array (tableValues items)

def entryValues : List (String × Entry) → List (String × Value)
  | [] => []
  | (key, entry) :: rest => (key, entryValue entry) :: entryValues rest

def tableValues : List (List (String × Entry)) → List Value
  | [] => []
  | entries :: rest => .table (entryValues entries) :: tableValues rest

end

/-- The values of a table. -/
def toValues (table : Table) : List (String × Value) := entryValues table

end Table

end LedgerRehearsal.Toml
