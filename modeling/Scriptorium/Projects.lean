import Scriptorium.Database
set_option autoImplicit false

/-!
# Projects

Callers see and change the projects that they own, and no others.
-/

namespace Scriptorium.Projects

/-- The name of the table. -/
def table : String := "Project"

/-- A test for the projects of an owner. -/
def ownedBy (owner : Value) : Row → Bool := Table.holds "owner_id" owner

/-- A test for the project of an owner with a number. -/
def isOwned (number owner : Value) (row : Row) : Bool :=
  Table.holds "id" number row && ownedBy owner row

/-- A test for the project of an owner with a name. -/
def isCalled (name owner : Value) (row : Row) : Bool :=
  Table.holds "name" name row && ownedBy owner row

/-- The fault of asking for a project that is not there. -/
def notFound : Fault := .refused 404 (.text "Project not found")

/-- The project of an owner with a number (`read_project`). -/
def read (db : Database) (number owner : Value) : Outcome Row :=
  match db.find? table (isOwned number owner) with
  | some row => .ok row
  | none => .error notFound

/-- Some of the projects of an owner (`read_projects`). -/
def list (db : Database) (owner : Value) (skip limit : Int) : Table :=
  Table.window skip limit ((db.table table).filter (ownedBy owner))

/-- Makes a new project (`create_project`).  Rows cannot be made, so that this fails in one way or
another. -/
def create (db : Database) (name owner : Value) : Outcome Row :=
  if (db.find? table (isCalled name owner)).isSome then
    .error (.refused 400 (.text "A project with this name already exists for the user."))
  else .error (.storage .unmapped)

/-- Changes the project of an owner with a number (`update_project`); gives the row as it is then.
-/
def update (db : Database) (number owner : Value) (changes : Fields) :
    Outcome (Database × Row) := do
  let row ← read db number owner
  return (db.save table (isOwned number owner) (Fields.merge · changes), Fields.merge row changes)

/-- Deletes the project of an owner with a number (`delete_project`). -/
def delete (db : Database) (number owner : Value) : Outcome Database := do
  discard (read db number owner)
  return db.delete table (isOwned number owner)

end Scriptorium.Projects

/-! ## Papers

Documents of projects in the database.  The table of documents has no column for the project,
so that papers can neither be made nor found.
-/

namespace Scriptorium.Papers

/-- The fault of asking a document for its project. -/
def noProject : Fault := .noColumn "Document" "project_id"

/-- The fault of asking for documents together with their projects, where queries have some
label. -/
def notJoined (query : String) : Fault := .noMember query "join"

/-- Makes a paper in a project (`create_document`). -/
def create (db : Database) (project owner : Value) : Outcome Row := do
  discard (Projects.read db project owner)
  throw (.storage .unmapped)

/-- The papers of a project (`read_project_documents`). -/
def ofProject (db : Database) (project owner : Value) : Outcome Table := do
  discard (Projects.read db project owner)
  throw noProject

end Scriptorium.Papers
