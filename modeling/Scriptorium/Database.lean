import Scriptorium.Fault
import Scriptorium.Value
set_option autoImplicit false

/-!
# The database

Named tables and the log of what was done to them.  Operations change rows in place: the row
that an operation means is the first one that a test accepts.
-/

/-! ## Rows

A table is a list of rows in order of insertion, and a row has a value for each of its
columns.  A column that a row does not give is empty.
-/

namespace Scriptorium

/-- A row of a table. -/
abbrev Row := Fields

/-- The rows of a table, in order of insertion. -/
abbrev Table := List Row

namespace Row

/-- The value of a column. -/
def get (row : Row) (column : String) : Value := (Fields.get? row column).getD .null

end Row

/-! ## Tables -/

/-- What is done to a database. -/
inductive Deed where
  | add
  | commit
  | rollback
  | refresh
  | delete
  deriving DecidableEq, Repr

/-- The name of a deed. -/
def Deed.label : Deed → String
  | add => "add"
  | commit => "commit"
  | rollback => "rollback"
  | refresh => "refresh"
  | delete => "delete"

/-- Tables under their names, and the log. -/
structure Database where
  tables : List (String × Table) := []
  log : List Deed := []
  deriving Repr, Inhabited

namespace Table

/-- A test for rows with a value in a column. -/
def holds (column : String) (v : Value) (row : Row) : Bool := (Row.get row column).same v

/-- Changes the first row that a test accepts. -/
def changeFirst (test : Row → Bool) (change : Row → Row) : Table → Table
  | [] => []
  | row :: rest => if test row then change row :: rest else row :: changeFirst test change rest

/-- Drops the first row that a test accepts. -/
def dropFirst (test : Row → Bool) : Table → Table
  | [] => []
  | row :: rest => if test row then rest else row :: dropFirst test rest

/-- Rows behind a place; a negative place counts from the end. -/
def behind (place : Int) (rows : Table) : Table :=
  if 0 ≤ place then rows.drop place.toNat else rows.drop (rows.length + place).toNat

/-- Rows before a place; a negative place counts from the end. -/
def before (place : Int) (rows : Table) : Table :=
  if 0 ≤ place then rows.take place.toNat else rows.take (rows.length + place).toNat

/-- At most `limit` rows behind the first `skip` ones. -/
def window (skip limit : Int) (rows : Table) : Table := before limit (behind skip rows)

end Table

namespace Database

/-- A table; one that is not there is empty. -/
def table (db : Database) (name : String) : Table := (Fields.get? db.tables name).getD []

/-- Writes a table. -/
def setTable (db : Database) (name : String) (rows : Table) : Database :=
  { db with tables := Fields.put db.tables name rows }

/-- Writes deeds to the log. -/
def note (db : Database) (deeds : List Deed) : Database := { db with log := db.log ++ deeds }

/-- The first row of a table that a test accepts. -/
def find? (db : Database) (name : String) (test : Row → Bool) : Option Row :=
  (db.table name).find? test

/-- Changes the first row of a table that a test accepts, and saves it. -/
def save (db : Database) (name : String) (test : Row → Bool) (change : Row → Row) : Database :=
  (db.setTable name ((db.table name).changeFirst test change)).note [.add, .commit, .refresh]

/-- Deletes the first row of a table that a test accepts. -/
def delete (db : Database) (name : String) (test : Row → Bool) : Database :=
  (db.setTable name ((db.table name).dropFirst test)).note [.delete, .commit]

end Database

end Scriptorium
