import Scriptorium.Fault
import Scriptorium.Storage.Address
import Scriptorium.Storage.Plan
set_option autoImplicit false

/-!
# Migrations

A migration connects to the database of an address and upgrades it in one transaction, and keeps
a log of all its steps.
-/

namespace Scriptorium.Storage

/-- A step of a migration. -/
inductive MigrationStep where
  | setOption (key value : String)
  /-- The tables that are compared, and whether types and presets are. -/
  | configure (tables : List String) (types presets : Bool)
  | begin
  | migrate
  | carryOut (command : Command)
  | commit
  deriving DecidableEq, Repr

/-- What a migration does: its log, where the data are and the catalog then, or why it failed. -/
structure Migration where
  log : List MigrationStep
  result : Outcome (Place × Catalog)
  deriving Repr

/-- The option that holds the address. -/
def addressOption : String := "sqlalchemy.url"

namespace Migration

/-- Upgrades a database (`do_run_migrations`). -/
def upgradeAt (place : Place) (catalog : Catalog) : Migration :=
  let (tried, catalog, flaw) := catalog.run upgrade
  let log := [.configure plannedNames true true, .begin, .migrate] ++ tried.map .carryOut
  match flaw with
  | none => ⟨log ++ [.commit], .ok (place, catalog)⟩
  | some flaw => ⟨log, .error (.storage flaw)⟩

/-- Migrates the empty database of an address (`run_migrations_online`).  Without a connection there
is no migration. -/
def run (address : String) (connected : Bool) : Migration :=
  let first := MigrationStep.setOption addressOption address
  if !connected then
    ⟨[first], .error (.aborted "Offline migrations are not supported with async SQLAlchemy")⟩
  else match Address.connect address with
    | .error flaw => ⟨[first], .error (.storage flaw)⟩
    | .ok place =>
      let m := upgradeAt place {}
      ⟨first :: m.log, m.result⟩

end Migration

end Scriptorium.Storage
