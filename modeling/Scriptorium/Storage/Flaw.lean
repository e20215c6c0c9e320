set_option autoImplicit false

/-!
# Flaws of storage

Why something cannot be stored.
-/

namespace Scriptorium.Storage

/-- Why something cannot be stored. -/
inductive Flaw where
  /-- The database, or an object in it, is not there or already there. -/
  | unreachable
  /-- A row breaks a rule of its table. -/
  | broken
  /-- A value is of a kind that no column takes. -/
  | unbindable
  /-- A value is not of the type of its column. -/
  | unfit
  /-- A text is no address of a database. -/
  | noAddress
  /-- An address names a kind of database that is not known. -/
  | noDialect
  /-- The connection of an address would make its callers wait. -/
  | waiting
  /-- Rows cannot be made: the tables refer to each other in ways that do not fit. -/
  | unmapped
  deriving DecidableEq, Repr

/-- What the database itself complains about. -/
inductive Complaint where
  | unopened
  | noTable (name : String)
  | noColumn (name : String)
  /-- A question does not say what is asked for. -/
  | nothingAsked
  deriving DecidableEq, Repr

/-- The wording of a complaint. -/
def Complaint.message : Complaint → String
  | unopened => "unable to open database file"
  | noTable name => s!"no such table: {name}"
  | noColumn name => s!"no such column: {name}"
  | nothingAsked => "near \"FROM\": syntax error"

end Scriptorium.Storage
