import Scriptorium.Drafting.Consistency
import Scriptorium.Drafting.Improvement
import Scriptorium.Projects
import Scriptorium.Web.Answer
import Scriptorium.Web.Route
set_option autoImplicit false

/-!
# Routes to the assistant

All routes need an active user.
-/

namespace Scriptorium.Api.Assistance

open Schema Web

variable [Halves]

/-- The ends of the names of files with code. -/
def codeEndings : List String := [".py", ".js", ".ts", ".java", ".c", ".cpp", ".go", ".rs"]

/-- Whether a file holds code, by its name. -/
def isCode (file : Part) : Bool :=
  codeEndings.any fun ending => ending.toList.isSuffixOf (file.filename.getD "").toList

/-- The fault of a call that brings no code. -/
def noCode : Fault := .refused 400 (.text
  ("No valid code files provided. Supported formats: " ++ ", ".intercalate codeEndings))

/-- Looks at everything that a document is written from: the project, the files, and the papers
of the project, which cannot be found. -/
def gatherFor (call : Call) (world : World) : Outcome Unit := do
  let project := call.arg "project_id"
  discard (Scriptorium.Projects.read world.database project call.number)
  let files := (call.files.map (·.2)).filter isCode
  for file in files do
    match file.text with
    | .ok _ => pure ()
    | .error e => throw (.notUtf8 e)
  if files.isEmpty then throw noCode
  discard (Papers.ofProject world.database project call.number)

/-- The fault at the end of a call: what went wrong before, unless a file in memory cannot be
cleaned up. -/
def ending (files : List Part) (f : Fault) : Fault :=
  if files.all Part.isOnDisk then
    .refused 500 (.text s!"Failed to generate document: {f.message}")
  else .noPath

/-- A document written from code (`generate_document`).  It always fails, and what was done is taken
back. -/
def generate : Endpoint where
  query := [.required "document_type" Forms.anyText, .required "project_id" .whole,
    .optional "project_description" Forms.anyText]
  body := .form [.files "code_files"]
  callers := .activeUsers
  run := fun call world =>
    let rolledBack := { world with database := world.database.note [.rollback] }
    let f := match gatherFor call world with
      | .ok () => Papers.noProject
      | .error f => f
    (rolledBack, .error (ending (call.files.map (·.2)) f))

/-- How well documentation fits code (`analyze_code_documentation`). -/
def consistency : Endpoint where
  query := [.required "code" Forms.anyText, .required "documentation" Forms.anyText]
  callers := .activeUsers
  run := Endpoint.reading fun call _ =>
    match Drafting.consistency (call.text "code") call.around.similarities with
    | .ok v => .ok (.value v)
    | .error f =>
      .error (.refused 500 (.text s!"Failed to analyze code documentation: {f.message}"))

/-- The parameters of a document and its kind. -/
def document : List (Slot FormName) :=
  [.required "document" Forms.anyText, .required "doc_type" Forms.anyText]

/-- The quality of a document. -/
def quality : Endpoint where
  query := document
  callers := .activeUsers
  run := Endpoint.reading fun call _ =>
    .ok (.value (Drafting.quality (call.arg "document") (call.arg "doc_type") call.around.now))

/-- What could be improved in a document. -/
def improve : Endpoint where
  query := document
  callers := .activeUsers
  run := Endpoint.reading fun call _ =>
    .ok (.value (Drafting.improve (call.arg "document") (call.arg "doc_type") call.around.now))

/-- The routes to the assistant. -/
def routes : List Route :=
  [.lead "POST" "/generate-document" "generate_document" generate,
    .lead "POST" "/analyze-code-docs" "analyze_code_documentation" consistency,
    .lead "POST" "/analyze-document-quality" "analyze_document_quality" quality,
    .lead "POST" "/suggest-improvements" "suggest_improvements" improve]

end Scriptorium.Api.Assistance
