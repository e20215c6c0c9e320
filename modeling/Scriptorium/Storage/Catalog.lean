import Scriptorium.Storage.Flaw
import Scriptorium.Value
set_option autoImplicit false

/-!
# Catalogs

A catalog holds the tables and indexes of a database.  Commands create and drop them; a command
fails if its object is already there, or is not there.
-/

namespace Scriptorium.Storage

/-! ## Tables and indexes -/

/-- A name without the case of its letters. -/
def caseless (name : String) : List Char := name.toList.map Char.toLower

/-- Whether something is called by its name; letters are taken in either case. -/
def isCalled (given name : String) : Bool := caseless given == caseless name

/-- The type of a column. -/
inductive ColumnType where
  | label (limit : Nat)
  | text
  | whole
  | truth
  | moment
  | json
  deriving DecidableEq, Repr

/-- The name of a type. -/
def ColumnType.name : ColumnType → String
  | label limit => s!"VARCHAR({limit})"
  | text => "TEXT"
  | whole => "INTEGER"
  | truth => "BOOLEAN"
  | moment => "DATETIME"
  | json => "JSON"

/-- What the database puts into a column that a row leaves out. -/
inductive Preset where
  | nothing
  | text (s : String)
  | now
  deriving DecidableEq, Repr

/-- What the program puts into a column that a row leaves out. -/
inductive Filling where
  | nothing
  | freshIdent
  | truth (b : Bool)
  deriving DecidableEq, Repr

/-- A column. -/
structure Column where
  name : String
  type : ColumnType
  mayBeEmpty : Bool := false
  preset : Preset := .nothing
  filling : Filling := .nothing
  deriving DecidableEq, Repr

/-- A column whose values are found in a column of a table. -/
structure ForeignKey where
  column : String
  table : String
  target : String
  deriving DecidableEq, Repr

/-- The form of a table. -/
structure TableForm where
  name : String
  columns : List Column
  foreignKeys : List ForeignKey := []
  key : List String := ["id"]
  deriving DecidableEq, Repr

/-- An index. -/
structure Index where
  name : String
  table : String
  columns : List String
  unique : Bool := false
  deriving DecidableEq, Repr

/-- The tables and indexes of a database, in the order of their making. -/
structure Catalog where
  tables : List TableForm := []
  indexes : List Index := []
  deriving DecidableEq, Repr, Inhabited

namespace Catalog

/-- The table of a name. -/
def table? (c : Catalog) (name : String) : Option TableForm := c.tables.find? (·.name = name)

/-- The table that a query calls by a name. -/
def called? (c : Catalog) (name : String) : Option TableForm :=
  c.tables.find? (isCalled name ·.name)

/-- Whether there is a table of a name. -/
def hasTable (c : Catalog) (name : String) : Bool := c.tables.any (isCalled name ·.name)

/-- Whether there is an index of a name. -/
def hasIndex (c : Catalog) (name : String) : Bool := c.indexes.any (isCalled name ·.name)

/-- The names of the tables, sorted. -/
def tableNames (c : Catalog) : List String := (c.tables.map (·.name)).mergeSort (· ≤ ·)

end Catalog

/-! ## Commands -/

/-- A command. -/
inductive Command where
  | createTable (form : TableForm)
  | createIndex (index : Index)
  | dropIndex (name table : String)
  | dropTable (name : String)
  deriving DecidableEq, Repr

namespace Catalog

/-- Carries out a command. -/
def step (c : Catalog) : Command → Except Flaw Catalog
  | .createTable form =>
    if c.hasTable form.name || c.hasIndex form.name then .error .unreachable
    else .ok { c with tables := c.tables ++ [form] }
  | .createIndex index =>
    if c.hasIndex index.name || c.hasTable index.name || !c.hasTable index.table then
      .error .unreachable
    else .ok { c with indexes := c.indexes ++ [index] }
  | .dropIndex name _ =>
    if c.hasIndex name then .ok { c with indexes := c.indexes.filter (!isCalled name ·.name) }
    else .error .unreachable
  | .dropTable name =>
    if c.hasTable name then
      .ok ⟨c.tables.filter (!isCalled name ·.name), c.indexes.filter (!isCalled name ·.table)⟩
    else .error .unreachable

/-- Carries out commands until one fails: those that were tried, the catalog then, and why the
last one failed. -/
def run (c : Catalog) : List Command → List Command × Catalog × Option Flaw
  | [] => ([], c, none)
  | command :: rest => match c.step command with
    | .error flaw => ([command], c, some flaw)
    | .ok next =>
      let (tried, last, flaw) := run next rest
      (command :: tried, last, flaw)

end Catalog

end Scriptorium.Storage
