import Scriptorium.Database
import Scriptorium.Ident
import Scriptorium.Storage.Cell
import Scriptorium.Storage.Plan
set_option autoImplicit false

/-!
# Stores

A store is a database with the rules of its catalog: columns that may not be empty, keys, and
unique indexes.  Rows are inserted all together or not at all; identifiers that were used up on
the way are not used again.
-/

namespace Scriptorium.Storage

/-- A database. -/
structure Store where
  catalog : Catalog := {}
  /-- The rows of the tables. -/
  rows : List (String × Table) := []
  /-- Whether the database can be opened. -/
  isOpen : Bool := true
  /-- The number of identifiers in use. -/
  taken : Nat := 0
  deriving Repr, Inhabited

namespace Store

/-- The rows of a table. -/
def rowsOf (store : Store) (table : String) : Table := (Fields.get? store.rows table).getD []

/-- Fails for a database that cannot be opened. -/
def requireOpen (store : Store) : Outcome Unit :=
  if store.isOpen then .ok () else .error (.storage .unreachable)

/-- Asks the database itself, which complains if it cannot be opened. -/
def consult (store : Store) : Outcome Unit :=
  if store.isOpen then .ok () else .error (.database .unopened)

/-! ## Tables -/

/-- Creates the planned tables that are not there (`startup_event`). -/
def start (store : Store) : Outcome Store := do
  store.requireOpen
  let absent := plan.filter fun p => !store.catalog.hasTable p.form.name
  match store.catalog.run (absent.flatMap Planned.creation) with
  | (_, catalog, none) => return { store with catalog := catalog }
  | (_, _, some flaw) => throw (.storage flaw)

/-- The text that lists the tables (`check_tables`). -/
def listing (store : Store) : Outcome String := do
  store.requireOpen
  let lines := "Tables in the database:" :: store.catalog.tableNames.map ("- " ++ ·)
  return String.join (lines.map (· ++ "\n"))

/-- What the database says of its preset for a column. -/
def presetText : Preset → Option String
  | .nothing => none
  | .text s => some s!"'{s}'"
  | .now => some "CURRENT_TIMESTAMP"

/-- Facts about a column: its place in the key is counted from one. -/
structure ColumnFacts where
  column : Column
  keyPlace : Nat
  deriving DecidableEq, Repr

/-- Facts about a column as a record. -/
def ColumnFacts.toValue (f : ColumnFacts) : Value :=
  .record [("name", .text f.column.name), ("type", .text f.column.type.name),
    ("not_null", .bool !f.column.mayBeEmpty), ("default", .ofText? (presetText f.column.preset)),
    ("key", .int f.keyPlace)]

/-- Facts about the columns of a table; a table that is not there has none. -/
def columns (store : Store) (table : String) : Outcome (List ColumnFacts) := do
  store.consult
  match store.catalog.called? table with
  | none => return []
  | some form => return form.columns.map fun c =>
      ⟨c, if form.key.contains c.name then form.key.idxOf c.name + 1 else 0⟩

/-- The names of the indexes and their tables, sorted. -/
def indexes (store : Store) : Outcome (List (String × String)) := do
  store.consult
  let names := store.catalog.indexes.map fun i => (i.name, i.table)
  return names.mergeSort fun a b => decide (a.1 ≤ b.1)

/-! ## Rows -/

/-- The values of some columns of all rows of a table. -/
def select (store : Store) (table : String) (columns : List String) :
    Outcome (List (List Value)) := do
  store.consult
  if columns.isEmpty then throw (.database .nothingAsked)
  let some form := store.catalog.called? table | throw (.database (.noTable table))
  let names ← columns.mapM fun name => match form.columns.find? (isCalled name ·.name) with
    | some column => Except.ok column.name
    | none => Except.error (Fault.database (.noColumn name))
  return (store.rowsOf form.name).map fun row => names.map (Row.get row)

/-- The value for a column that a row leaves out, and the number of identifiers then in use. -/
def fill [Halves] (now : Stamp) (taken : Nat) (c : Column) : Outcome Value × Nat :=
  match c.filling, c.preset with
  | .freshIdent, _ => (.ok (.text (Ident.ofSupply (taken + 1)).text), taken + 1)
  | .truth b, _ => (cell c.type (.bool b), taken)
  | .nothing, .text s => (.ok (keepIn c.type (.text s)), taken)
  | .nothing, .now => (.ok (.text (now.textWith " ")), taken)
  | .nothing, .nothing => (.ok .null, taken)

/-- The stored values for columns, and the number of identifiers then in use. -/
def complete [Halves] (now : Stamp) (given : Fields) : Nat → List Column → Outcome Row × Nat
  | taken, [] => (.ok [], taken)
  | taken, c :: rest =>
    let (value, taken) := match Fields.get? given c.name with
      | some v => (cell c.type v, taken)
      | none => fill now taken c
    let (row, taken) := complete now given taken rest
    (do return (c.name, ← value) :: (← row), taken)

/-- Whether a row leaves a column empty that may not be. -/
def leavesEmpty (form : TableForm) (row : Row) : Bool :=
  form.columns.any fun c => !c.mayBeEmpty && (Row.get row c.name).same .null

/-- Whether two rows have the same values in some columns; empty ones differ. -/
def agree (columns : List String) (a b : Row) : Bool :=
  columns.all fun c => !(Row.get a c).same .null && (Row.get a c).same (Row.get b c)

/-- The lists of columns whose values differ from row to row of a table. -/
def keysOf (catalog : Catalog) (form : TableForm) : List (List String) :=
  form.key :: (catalog.indexes.filter fun i => i.unique && i.table = form.name).map (·.columns)

/-- Adds a row that breaks no rule of its table. -/
def add (store : Store) (table : String) (row : Row) : Except Flaw Store :=
  match store.catalog.table? table with
  | none => .error .unreachable
  | some form =>
    let present := store.rowsOf table
    if leavesEmpty form row || (keysOf store.catalog form).any fun columns =>
        present.any (agree columns row) then .error .broken
    else .ok { store with rows := Fields.put store.rows table (present ++ [row]) }

/-- The values of a row as they are given for the columns of a table. -/
def prepare [Halves] (form : TableForm) (given : Fields) : Outcome Fields :=
  given.mapM fun (name, v) => match form.columns.find? (·.name = name) with
    | some c => do return (name, ← takeFor c.type v)
    | none => .error (.missingKey (.text name))

/-- Inserts one row; the identifiers it uses up stay used if it fails. -/
def insertRow [Halves] (store : Store) (now : Stamp) (table : String) (given : Fields) :
    Store × Outcome Unit :=
  let prepared : Outcome (TableForm × Fields) := do
    let some form := planned? table | throw (.missingKey (.text table))
    let given ← prepare form given
    store.requireOpen
    return (form, given)
  match prepared with
  | .error f => (store, .error f)
  | .ok (form, given) =>
    let (row, taken) := complete now given store.taken form.columns
    let used := { store with taken := taken }
    match row with
    | .error f => (used, .error f)
    | .ok row => match used.add table row with
      | .ok store => (store, .ok ())
      | .error flaw => (used, .error (.storage flaw))

/-- Inserts rows up to the first that fails. -/
def insertRows [Halves] (now : Stamp) : List (String × Fields) → Store → Store × Outcome Unit
  | [], store => (store, .ok ())
  | (table, given) :: rest, store => match store.insertRow now table given with
    | (store, .ok ()) => insertRows now rest store
    | (store, .error f) => (store, .error f)

/-- Inserts all rows, or none if one fails or the work is broken off behind them (`get_db`). -/
def insert [Halves] (store : Store) (now : Stamp) (rows : List (String × Fields))
    (breakOff : Option String) : Store × Outcome Unit :=
  let done := insertRows now rows store
  let back := { store with taken := done.1.taken }
  match done with
  | (after, .ok ()) => match breakOff with
    | none => (after, .ok ())
    | some text => (back, .error (.aborted text))
  | (_, .error f) => (back, .error f)

end Store

end Scriptorium.Storage
