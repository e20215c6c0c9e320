import Scriptorium.Web.Answer
import Scriptorium.Web.Route
set_option autoImplicit false

/-!
# Routes to the cabinet of documents
-/

namespace Scriptorium.Api.Cabinet

open Schema Web

variable [Halves]

/-- The parameter that all routes to one document have. -/
def ident : Slot FormName := .required "doc_id" Forms.anyText

/-- What an author gives. -/
def drafted : Body := .whole "document" (.form .storedBase) true

/-- The draft that a call gives. -/
def draftOf (call : Call) : Cabinet.Draft := .ofFields (call.record "document")

/-- The texts of the identifiers that new documents get. -/
def supply (n : Nat) : String := (Ident.ofSupply n).text

/-- What is done by an endpoint that asks something of the cabinet. -/
def asking (wish : Call → Cabinet.Wish) (call : Call) (world : World) : World × Outcome Result :=
  let registry : Cabinet.Registry := ⟨world.cabinet, world.taken⟩
  let done := registry.answer supply call.around.now (wish call)
  ({ world with cabinet := done.1.cabinet, taken := done.1.taken }, .value <$> done.2)

/-- A new document. -/
def create : Endpoint where
  body := drafted
  shown := .one .stored
  run := asking fun call => .create (draftOf call)

/-- One document. -/
def get : Endpoint where
  path := [ident]
  shown := .one .stored
  run := asking fun call => .get (call.text "doc_id")

/-- Changes of a document. -/
def update : Endpoint where
  path := [ident]
  body := drafted
  shown := .one .stored
  run := asking fun call => .update (call.text "doc_id") (draftOf call)

/-- The documents of a project. -/
def ofProject : Endpoint where
  path := [.required "project_id" Forms.anyText]
  query := [.optional "doc_type" Forms.anyText]
  shown := .many .stored
  run := asking fun call => .ofProject (call.text "project_id") ((call.arg "doc_type").text?)

/-- The end of a document. -/
def delete : Endpoint where
  path := [ident]
  status := 204
  run := asking fun call => .delete (call.text "doc_id")

/-- A document written by the assistant. -/
def generate : Endpoint where
  body := .whole "request" (.form .generationRequest) true
  status := 201
  run := asking fun call => .generate (.ofFields (call.record "request")) call.around.reply

/-- A document from a file. -/
def importFile : Endpoint where
  body := .form [.file "file", .text (.required "project_id" Forms.anyText),
    .text (.required "doc_type" Forms.anyText)]
  run := asking fun call =>
    let file := call.file "file"
    .importFile (file.filename.getD "") file.bytes (call.text "project_id") (call.text "doc_type")

/-- The routes to the cabinet. -/
def routes : List Route :=
  [.lead "POST" "/" "create_document" create,
    .lead "GET" "/:doc_id" "get_document" get,
    .lead "PUT" "/:doc_id" "update_document" update,
    .lead "GET" "/project/:project_id" "get_project_documents" ofProject,
    .lead "DELETE" "/:doc_id" "delete_document" delete,
    .lead "POST" "/generate" "generate_document" generate,
    .lead "POST" "/import/markdown" "import_markdown" importFile]

end Scriptorium.Api.Cabinet
