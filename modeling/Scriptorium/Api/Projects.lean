import Scriptorium.Api.Users
import Scriptorium.Projects
set_option autoImplicit false

/-!
# Routes to projects and their papers

All routes need an active user.
-/

namespace Scriptorium.Api.Projects

open Schema Web

/-- The parameter of a project's number. -/
def number : Slot FormName := .required "project_id" .whole

/-- A new project. -/
def create : Endpoint where
  body := .whole "project_in" (.form .projectCreate) true
  callers := .activeUsers
  shown := .one .project
  run := Endpoint.reading fun call world =>
    .row <$> Scriptorium.Projects.create world.database
      (Row.get (call.record "project_in") "name") call.number

/-- The projects of the caller. -/
def list : Endpoint where
  query := Users.windowed 100
  callers := .activeUsers
  shown := .many .project
  run := Endpoint.reading fun call world =>
    .ok (.rows (Scriptorium.Projects.list world.database call.number (call.whole "skip")
      (call.whole "limit")))

/-- One project of the caller. -/
def get : Endpoint where
  path := [number]
  callers := .activeUsers
  shown := .one .projectWithPapers
  run := Endpoint.reading fun call world =>
    .row <$> Scriptorium.Projects.read world.database (call.arg "project_id") call.number

/-- Changes of a project. -/
def update : Endpoint where
  path := [number]
  body := .whole "project_in" (.form .projectUpdate) true
  callers := .activeUsers
  shown := .one .project
  run := Endpoint.changing fun call world => do
    let (database, row) ← Scriptorium.Projects.update world.database (call.arg "project_id")
      call.number (call.changes "project_in")
    return ({ world with database := database }, .row row)

/-- The end of a project. -/
def delete : Endpoint where
  path := [number]
  callers := .activeUsers
  status := 204
  run := Endpoint.changing fun call world => do
    let database ← Scriptorium.Projects.delete world.database (call.arg "project_id") call.number
    return ({ world with database := database }, .value .null)

/-- The routes to projects. -/
def routes : List Route :=
  [.lead "POST" "/" "create_project" create,
    .lead "GET" "/" "read_projects" list,
    .lead "GET" "/:project_id" "read_project" get,
    .lead "PUT" "/:project_id" "update_project" update,
    .lead "DELETE" "/:project_id" "delete_project" delete]

/-! ## Papers -/

/-- The parameter of a paper's number. -/
def paperNumber : Slot FormName := .required "document_id" .whole

/-- What is asked of a paper together with its project. -/
def joined (call : Call) (world : World) : World × Outcome Result :=
  Endpoint.reading (fun call _ => .error (Papers.notJoined call.around.queryLabel)) call world

/-- A new paper. -/
def createPaper : Endpoint where
  body := .whole "document_in" (.form .paperCreate) true
  callers := .activeUsers
  shown := .one .paper
  run := Endpoint.reading fun call world =>
    .row <$> Papers.create world.database (Row.get (call.record "document_in") "project_id")
      call.number

/-- One paper (`read_document`). -/
def getPaper : Endpoint where
  path := [paperNumber]
  callers := .activeUsers
  shown := .one .paperWithProject
  run := joined

/-- The papers of a project. -/
def papersOf : Endpoint where
  path := [number]
  query := .optional "document_type" (.member Forms.paperKinds) :: Users.windowed 100
  callers := .activeUsers
  shown := .many .paper
  run := Endpoint.reading fun call world =>
    .rows <$> Papers.ofProject world.database (call.arg "project_id") call.number

/-- Changes of a paper (`update_document`). -/
def updatePaper : Endpoint where
  path := [paperNumber]
  body := .whole "document_in" (.form .paperUpdate) true
  callers := .activeUsers
  shown := .one .paper
  run := joined

/-- The end of a paper (`delete_document`). -/
def deletePaper : Endpoint where
  path := [paperNumber]
  callers := .activeUsers
  status := 204
  run := joined

/-- The routes to papers. -/
def paperRoutes : List Route :=
  [.lead "POST" "/" "create_document" createPaper,
    .lead "GET" "/:document_id" "read_document" getPaper,
    .lead "GET" "/project/:project_id" "read_project_documents" papersOf,
    .lead "PUT" "/:document_id" "update_document" updatePaper,
    .lead "DELETE" "/:document_id" "delete_document" deletePaper]

end Scriptorium.Api.Projects
