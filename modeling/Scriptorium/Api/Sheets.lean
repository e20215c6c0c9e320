import Scriptorium.Api.Users
import Scriptorium.Sheets
set_option autoImplicit false

/-!
# Routes to sheets

All routes need a user, who need not be active.
-/

namespace Scriptorium.Api.Sheets

open Schema Web

variable [Halves]

/-- The parameter of a sheet's identifier. -/
def ident : Slot FormName := .required "document_id" Forms.anyText

/-- The parameter of a version's identifier. -/
def versionIdent : Slot FormName := .required "version_id" Forms.anyText

/-- A new sheet (`create_document`).  Rows cannot be made. -/
def create : Endpoint where
  body := .whole "document" (.form .sheetCreate) true
  callers := .users
  shown := .one .sheet
  run := Endpoint.reading fun _ _ => .error (.storage .unmapped)

/-- One sheet. -/
def get : Endpoint where
  path := [ident]
  callers := .users
  shown := .one .sheet
  run := Endpoint.reading fun call world =>
    .row <$> Scriptorium.Sheets.read world.database (call.arg "document_id") call.caller

/-- A new version of a sheet. -/
def createVersion : Endpoint where
  path := [ident]
  body := .whole "version" (.form .sheetVersionCreate) true
  callers := .users
  shown := .one .sheetVersion
  run := Endpoint.reading fun call world =>
    .row <$> Scriptorium.Sheets.createVersion world.database (call.arg "document_id") call.caller

/-- The versions of a sheet. -/
def versions : Endpoint where
  path := [ident]
  query := Users.windowed 10
  callers := .users
  shown := .many .sheetVersion
  run := Endpoint.reading fun call world =>
    .rows <$> Scriptorium.Sheets.versions world.database (call.arg "document_id") call.caller
      (call.whole "skip") (call.whole "limit")

/-- A new comment on a version. -/
def createComment : Endpoint where
  path := [versionIdent]
  body := .whole "comment" (.form .sheetCommentCreate) true
  callers := .users
  shown := .one .sheetComment
  run := Endpoint.reading fun call world =>
    .row <$> Scriptorium.Sheets.createComment world.database (call.arg "version_id") call.caller

/-- The comments on a version. -/
def comments : Endpoint where
  path := [versionIdent]
  callers := .users
  shown := .many .sheetComment
  run := Endpoint.reading fun call world =>
    .rows <$> Scriptorium.Sheets.comments world.database (call.arg "version_id") call.caller

/-- A new collaborator of a sheet. -/
def addCollaborator : Endpoint where
  path := [ident, .required "user_id" Forms.anyText]
  query := [.defaulted "permission" Forms.anyText (.text "editor")]
  callers := .users
  run := fun call world =>
    let (database, name) := Scriptorium.Sheets.addCollaborator world.database
      (call.arg "document_id") (call.arg "user_id") call.caller
    ({ world with database := database }, (fun name =>
      .value (.record [("message", .text s!"Added {name.shown} as a collaborator")])) <$> name)

/-- The routes to sheets. -/
def routes : List Route :=
  [.socket "/ws/documents/:document_id" "websocket_endpoint",
    .lead "POST" "/documents/" "create_document" create,
    .lead "GET" "/documents/:document_id" "get_document" get,
    .lead "POST" "/documents/:document_id/versions" "create_document_version" createVersion,
    .lead "GET" "/documents/:document_id/versions" "list_document_versions" versions,
    .lead "POST" "/versions/:version_id/comments" "add_comment" createComment,
    .lead "GET" "/versions/:version_id/comments" "list_comments" comments,
    .lead "POST" "/documents/:document_id/collaborators/:user_id" "add_collaborator"
      addCollaborator]

end Scriptorium.Api.Sheets
