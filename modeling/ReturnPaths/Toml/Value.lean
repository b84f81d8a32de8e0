/-!
# TOML values

The values of a TOML document, and the tables they are collected in.  A table remembers how it came
about (`Origin`), because this decides what may be added to it later on.

* `Table.define` : the table with a value for a dotted key.
* `Table.openTable`, `Table.openElement` : the table after a header in brackets, or in double
  brackets.

Each of them fails if the document would define something twice.
-/

namespace ReturnPaths.Toml

/-- How a table came about. -/
inductive Origin where
  /-- Written in braces; nothing can be added to it. -/
  | closed
  /-- Named by a header, or the whole document. -/
  | stated
  /-- Passed through by a header; a header of its own may still follow. -/
  | implied
  /-- Passed through by a dotted key. -/
  | dotted
  deriving DecidableEq, Repr

/-- A value. -/
inductive Value where
  /-- A string. -/
  | text (value : String)
  /-- An integer. -/
  | integer (value : Int)
  /-- A floating point number, as it is written. -/
  | float (written : String)
  /-- A truth value. -/
  | flag (value : Bool)
  /-- A date, a time of day or both, as it is written. -/
  | moment (written : String)
  /-- A list in brackets. -/
  | list (elements : List Value)
  /-- A table. -/
  | table (origin : Origin) (entries : List (String × Value))
  /-- The tables that headers in double brackets add, one each. -/
  | tables (elements : List (List (String × Value)))

/-- A table under construction. -/
structure Table where
  /-- How it came about. -/
  origin : Origin
  /-- Its entries. -/
  entries : List (String × Value) := []

namespace Table

/-- Entries with one of them set. -/
def setEntry (key : String) (value : Value) : List (String × Value) → List (String × Value)
  | [] => [(key, value)]
  | (other, old) :: rest =>
    if other = key then (key, value) :: rest else (other, old) :: setEntry key value rest

/-- The table with an entry set. -/
def set (table : Table) (key : String) (value : Value) : Table :=
  { table with entries := setEntry key value table.entries }

/-- The table as a value. -/
def toValue (table : Table) : Value :=
  .table table.origin table.entries

/-- Changes the table that a path leads to.  Tables that are missing on the way are added with the
given origin; of a list of tables the path goes through the last one.  A dotted key does not lead
into a table that has a header. -/
def alter (missing : Origin) (change : Table → Option Table) :
    List String → Table → Option Table
  | [], table => change table
  | key :: path, table =>
    match table.entries.lookup key with
    | none => do
      let child ← alter missing change path { origin := missing }
      return table.set key child.toValue
    | some (.table origin entries) =>
      if origin = .closed ∨ (missing = .dotted ∧ origin = .stated) then none
      else do
        let child ← alter missing change path { origin, entries }
        return table.set key child.toValue
    | some (.tables elements) =>
      match elements.reverse with
      | [] => none
      | last :: others => do
        let child ← alter missing change path { origin := .stated, entries := last }
        return table.set key (.tables (child.entries :: others).reverse)
    | some _ => none

/-- The table with a value for a dotted key, given as its last part and the parts before it.  A
table that was passed through by dotted keys gets entries from dotted keys only, and no other
table on the way does. -/
def define (path : List String) (key : String) (value : Value) (table : Table) : Option Table :=
  table.alter .dotted (fun target =>
    if decide (target.origin = .dotted) = path.isEmpty then none
    else if (target.entries.lookup key).isSome then none
    else some (target.set key value)) path

/-- The table after a header in brackets.  A table that earlier headers only passed through keeps
its entries. -/
def openTable (path : List String) (key : String) (table : Table) : Option Table :=
  table.alter .implied (fun parent =>
    match parent.entries.lookup key with
    | none => some (parent.set key (.table .stated []))
    | some (.table .implied entries) => some (parent.set key (.table .stated entries))
    | some _ => none) path

/-- The table after a header in double brackets, which adds one more table to a list of tables. -/
def openElement (path : List String) (key : String) (table : Table) : Option Table :=
  table.alter .implied (fun parent =>
    match parent.entries.lookup key with
    | none => some (parent.set key (.tables [[]]))
    | some (.tables elements) => some (parent.set key (.tables (elements ++ [[]])))
    | some _ => none) path

end Table

end ReturnPaths.Toml
