import Scriptorium.Database
import Scriptorium.Sorting
import Scriptorium.Value.Arithmetic
set_option autoImplicit false

/-!
# Sheets

Documents that are edited together.  A sheet is open to its collaborators and, if it is public,
to everybody for reading; collaborators are the numbers of users.
-/

namespace Scriptorium.Sheets

variable [Halves]

/-- The name of the table of sheets. -/
def table : String := "Document"

/-- The name of the table of their versions. -/
def versionTable : String := "DocumentVersion"

/-- The name of the table of the comments on versions. -/
def commentTable : String := "DocumentComment"

/-- The fault of asking for something that is not there. -/
def notFound (what : String) : Fault := .refused 404 (.text s!"{what} not found")

/-- The fault of a caller who may not do something. -/
def notAuthorized (deed : String) : Fault := .refused 403 (.text s!"Not authorized to {deed}")

/-- The sheet with an identifier. -/
def sheet (db : Database) (id : Value) : Outcome Row :=
  match db.find? table (Table.holds "id" id) with
  | some row => .ok row
  | none => .error (notFound "Document")

/-- The numbers of the collaborators of a sheet. -/
def collaborators (sheet : Row) : List Value := ((Row.get sheet "collaborators").list?).getD []

/-- A sheet that lists exactly the collaborators who are users: a number stands for all users who
have it, and for nobody if none has. -/
def enrolled (users : Table) (sheet : Row) : Row :=
  match Row.get sheet "collaborators" with
  | .list numbers => Fields.put sheet "collaborators" (.list (numbers.flatMap fun number =>
      (users.filter (Table.holds "id" number)).map (Row.get · "id")))
  | _ => sheet

/-- A database whose sheets list only collaborators who are users. -/
def enrol (db : Database) : Database :=
  { db with tables := db.tables.map fun (name, rows) =>
      (name, if name = table then rows.map (enrolled (db.table "User")) else rows) }

/-- Whether a caller is a collaborator of a sheet. -/
def isCollaborator (sheet caller : Row) : Bool :=
  (collaborators sheet).any (·.same (Row.get caller "id"))

/-- Whether a caller may read a sheet. -/
def isOpenTo (sheet caller : Row) : Bool :=
  (Row.get sheet "is_public").truthy || isCollaborator sheet caller

/-- The sheet with an identifier, for a caller who may read it (`get_document`). -/
def read (db : Database) (id : Value) (caller : Row) : Outcome Row := do
  let found ← sheet db id
  if isOpenTo found caller then return found else throw (notAuthorized "access this document")

/-! ## Versions -/

/-- The versions of a sheet, the last one first. -/
def versionsOf (db : Database) (id : Value) : Outcome Table := do
  let found := (db.table versionTable).filter (Table.holds "document_id" id)
  let sorted ← Sorting.sort
    (fun a b => (Row.get a "version_number").less (Row.get b "version_number")) found.reverse
  return sorted.reverse

/-- Some of the versions of a sheet, for a caller who may read it (`list_document_versions`). -/
def versions (db : Database) (id : Value) (caller : Row) (skip limit : Int) : Outcome Table := do
  discard (read db id caller)
  return Table.window skip limit (← versionsOf db id)

/-- Makes a new version (`create_document_version`).  Rows cannot be made, so that this fails in one
way or another. -/
def createVersion (db : Database) (id : Value) (caller : Row) : Outcome Row := do
  let found ← sheet db id
  if !isCollaborator found caller then throw (notAuthorized "edit this document")
  match ← versionsOf db id with
  | [] => throw (.storage .unmapped)
  | last :: _ =>
    discard ((Row.get last "version_number").plus (.int 1))
    throw (.storage .unmapped)

/-! ## Comments -/

/-- The version with an identifier, for a caller who may read its sheet. -/
def version (db : Database) (id : Value) (caller : Row) (deed : String) : Outcome Row := do
  match db.find? versionTable (Table.holds "id" id) with
  | none => throw (notFound "Version")
  | some found =>
    match db.find? table (Table.holds "id" (Row.get found "document_id")) with
    | none => throw (notAuthorized deed)
    | some sheet => if isOpenTo sheet caller then return found else throw (notAuthorized deed)

/-- Makes a new comment (`add_comment`).  Rows cannot be made, so that this fails in one way or
another. -/
def createComment (db : Database) (id : Value) (caller : Row) : Outcome Row := do
  discard (version db id caller "comment on this document")
  throw (.storage .unmapped)

/-- The comments on a version that answer no other comment (`list_comments`). -/
def comments (db : Database) (id : Value) (caller : Row) : Outcome Table := do
  discard (version db id caller "view comments on this document")
  return (db.table commentTable).filter fun row =>
    Table.holds "version_id" id row && Table.holds "parent_comment_id" .null row

/-! ## Collaborators -/

/-- An attribute of a user's row.  A row has the attributes that it gives and no others. -/
def ofUser (user : Row) (name : String) : Outcome Value :=
  match Fields.get? user name with
  | some v => .ok v
  | none => .error (.noMember "Row" name)

/-- Whether a user is an administrator. -/
def isAdministrator (user : Row) : Outcome Bool :=
  (·.same (.text "admin")) <$> ofUser user "permission_level"

/-- Whether a caller may choose the collaborators of a sheet: the one who made it and
collaborators who are administrators may. -/
def mayManage (db : Database) (sheet caller : Row) : Outcome Bool :=
  let number := Row.get caller "id"
  if (Row.get sheet "created_by").same number then .ok true
  else
    let own := (collaborators sheet).filter (·.same number)
    (own.flatMap fun c => (db.table "User").filter (Table.holds "id" c)).anyM isAdministrator

/-- A sheet with one more collaborator, unless it has that one. -/
def withCollaborator (number : Value) (sheet : Row) : Row :=
  let present := collaborators sheet
  if present.any (·.same number) then sheet
  else Fields.put sheet "collaborators" (.list (present ++ [number]))

/-- The row of a user whom a caller may make a collaborator of a sheet. -/
def candidate (db : Database) (id user : Value) (caller : Row) : Outcome Row := do
  let found ← sheet db id
  if !(← mayManage db found caller) then throw (notAuthorized "manage collaborators")
  match db.find? "User" (Table.holds "id" user) with
  | none => throw (notFound "User")
  | some row => return row

/-- Makes a user a collaborator of a sheet (`add_collaborator`); gives the user's name, which is
asked for when the change is saved. -/
def addCollaborator (db : Database) (id user : Value) (caller : Row) :
    Database × Outcome Value :=
  match candidate db id user caller with
  | .error f => (db, .error f)
  | .ok row =>
    let sheets := (db.table table).changeFirst (Table.holds "id" id)
      (withCollaborator (Row.get row "id"))
    ((db.setTable table sheets).note [.commit], ofUser row "username")

end Scriptorium.Sheets
