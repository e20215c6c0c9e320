import Scriptorium.Text.Case
import Scriptorium.Text.Search
import Scriptorium.Text.Utf8
import Scriptorium.Writing
set_option autoImplicit false

/-!
# The cabinet of documents

Documents are kept under their identifiers, in the order of their making.  They are created by
hand, written by the assistant, or taken from a Markdown file.
-/

namespace Scriptorium

namespace Cabinet

/-- The part of a document that its author gives (`DocumentBase`). -/
structure Draft where
  title : String
  content : String
  docType : String
  projectId : String
  metadata : Value
  deriving Repr

/-- A draft from its checked fields. -/
def Draft.ofFields (fields : Fields) : Draft :=
  let text (name : String) : String := ((Fields.get? fields name).bind Value.text?).getD ""
  ⟨text "title", text "content", text "doc_type", text "project_id",
    (Fields.get? fields "metadata").getD .null⟩

/-- A document. -/
structure Document extends Draft where
  id : String
  createdAt : Stamp
  updatedAt : Stamp
  deriving Repr

/-- A document as a record. -/
def Document.toValue (d : Document) : Value :=
  .record [("title", .text d.title), ("content", .text d.content), ("doc_type", .text d.docType),
    ("project_id", .text d.projectId), ("metadata", d.metadata), ("id", .text d.id),
    ("created_at", .stamp d.createdAt), ("updated_at", .stamp d.updatedAt)]

end Cabinet

/-- Documents under their identifiers. -/
abbrev Cabinet := List (String × Cabinet.Document)

namespace Cabinet

/-- The fault of asking for a document that is not there. -/
def notFound : Fault := .refused 404 (.text "Document not found")

/-- Adds a document under a new identifier (`create_document`). -/
def create (cabinet : Cabinet) (id : String) (draft : Draft) (now : Stamp) : Cabinet × Document :=
  let d : Document := { draft with id := id, createdAt := now, updatedAt := now }
  (Fields.put cabinet id d, d)

/-- The document under an identifier (`get_document`). -/
def get (cabinet : Cabinet) (id : String) : Outcome Document :=
  match Fields.get? cabinet id with
  | some d => .ok d
  | none => .error notFound

/-- Replaces what the author of a document gave (`update_document`). -/
def update (cabinet : Cabinet) (id : String) (draft : Draft) (now : Stamp) :
    Outcome (Cabinet × Document) := do
  let old ← get cabinet id
  let d : Document := { draft with id := id, createdAt := old.createdAt, updatedAt := now }
  return (Fields.put cabinet id d, d)

/-- Removes a document (`delete_document`). -/
def delete (cabinet : Cabinet) (id : String) : Outcome Cabinet := do
  discard (get cabinet id)
  return Fields.erase cabinet id

/-- The documents of a project, of one type if a type is given (`get_project_documents`). -/
def ofProject (cabinet : Cabinet) (projectId : String) (docType : Option String) : List Document :=
  let docs := (cabinet.map (·.2)).filter fun d => d.projectId = projectId
  match docType with
  | some type => if type.isEmpty then docs else docs.filter fun d => d.docType = type
  | none => docs

/-! ## Written documents -/

/-- A request to write a document (`GenerateDocumentRequest`). -/
structure Order where
  projectId : String
  description : String
  snippets : List Fields
  docType : String
  context : Value
  deriving Repr

/-- An order from its checked fields. -/
def Order.ofFields (fields : Fields) : Order :=
  let text (name : String) : String := ((Fields.get? fields name).bind Value.text?).getD ""
  ⟨text "project_id", text "project_description",
    (((Fields.get? fields "code_snippets").bind Value.list?).getD []).map fun v =>
      (v.record?).getD [],
    text "document_type", (Fields.get? fields "additional_context").getD .null⟩

/-- What is noted about a document that the assistant wrote. -/
def generatedBy : Value :=
  .record [("generated_by", .text "openai"), ("model", .text Writing.model)]

/-- The draft for an order, once its content is written; content has to be there. -/
def Order.draft (o : Order) (content : Option String) : Outcome Draft :=
  match content with
  | some text =>
    .ok ⟨s!"{Text.upper o.docType} - {o.projectId}", text, o.docType, o.projectId, generatedBy⟩
  | none => .error (.rejected "DocumentBase" [⟨[.text "content"], .nothing⟩])

/-- Has an order written: what the assistant was asked, and the draft. -/
def Order.write [Halves] (o : Order) (reply : Reply) : List Request × Outcome Draft :=
  let (asked, written) := Writing.write o.docType (.text o.description)
    (.list (o.snippets.map .record)) o.context reply
  (asked, do o.draft (← written))

/-- Writes a document and keeps it (`generate_document`): what the assistant was asked, and the new
cabinet with the document. -/
def generate [Halves] (cabinet : Cabinet) (id : String) (o : Order) (reply : Reply) (now : Stamp) :
    List Request × Outcome (Cabinet × Document) :=
  let (asked, written) := o.write reply
  (asked, match written with
    | .ok draft => .ok (create cabinet id draft now)
    | .error f => .error (.refused 500 (.text s!"Error generating document: {f.message}")))

/-- What is told about a document that was written. -/
def announcement (d : Document) : Value :=
  .record [("message", .text "Document generated successfully"), ("document", d.toValue)]

/-! ## Markdown files -/

/-- Whether a file is taken: by the end of its name. -/
def isMarkdown (filename : String) : Bool := ".md".toList.isSuffixOf filename.toList

/-- The draft that a file holds. -/
def markdownDraft (filename : String) (bytes : List UInt8) (projectId docType : String) :
    Outcome Draft := do
  if !isMarkdown filename then throw (.refused 400 (.text "Only .md files are supported"))
  let content ← match Text.Utf8.decode bytes with
    | .ok cs => pure (String.ofList cs)
    | .error e => throw (.notUtf8 e)
  let title := String.ofList (Text.replace ".md".toList [] filename.toList)
  return ⟨title, content, docType, projectId, .null⟩

/-- Takes a document from a file (`import_markdown`). -/
def importFile (cabinet : Cabinet) (id filename : String) (bytes : List UInt8)
    (projectId docType : String) (now : Stamp) : Outcome (Cabinet × Document) := do
  return create cabinet id (← markdownDraft filename bytes projectId docType) now

/-! ## Requests -/

/-- What can be asked of a cabinet. -/
inductive Wish where
  | create (draft : Draft)
  | get (id : String)
  | update (id : String) (draft : Draft)
  | ofProject (projectId : String) (docType : Option String)
  | delete (id : String)
  | generate (order : Order) (reply : Reply)
  | importFile (filename : String) (bytes : List UInt8) (projectId docType : String)

/-- A cabinet, and how many identifiers of the supply are in use. -/
structure Registry where
  cabinet : Cabinet := []
  taken : Nat := 0
  deriving Repr

namespace Registry

/-- Keeps a document that was made with the next identifier, if it was made. -/
def file (registry : Registry) (made : Outcome (Cabinet × Document)) (tell : Document → Value) :
    Registry × Outcome Value :=
  match made with
  | .ok (cabinet, d) => (⟨cabinet, registry.taken + 1⟩, .ok (tell d))
  | .error f => (registry, .error f)

/-- Keeps what became of a document that was there, if nothing went wrong. -/
def settle (registry : Registry) (done : Outcome (Cabinet × Value)) : Registry × Outcome Value :=
  match done with
  | .ok (cabinet, v) => ({ registry with cabinet := cabinet }, .ok v)
  | .error f => (registry, .error f)

/-- Fulfils a wish.  A wish that makes a document takes the next identifier of the supply for it;
one that fails changes nothing. -/
def answer [Halves] (supply : Nat → String) (registry : Registry) (now : Stamp) :
    Wish → Registry × Outcome Value
  | .create draft =>
    registry.file (.ok (registry.cabinet.create (supply (registry.taken + 1)) draft now))
      Document.toValue
  | .get id => (registry, Document.toValue <$> registry.cabinet.get id)
  | .update id draft => registry.settle do
    let (cabinet, d) ← registry.cabinet.update id draft now
    return (cabinet, d.toValue)
  | .ofProject projectId docType =>
    (registry, .ok (.list ((registry.cabinet.ofProject projectId docType).map Document.toValue)))
  | .delete id => registry.settle do return (← registry.cabinet.delete id, .null)
  | .generate order reply =>
    registry.file (registry.cabinet.generate (supply (registry.taken + 1)) order reply now).2
      announcement
  | .importFile filename bytes projectId docType =>
    registry.file (registry.cabinet.importFile (supply (registry.taken + 1)) filename bytes
      projectId docType now) Document.toValue

end Registry

end Cabinet

end Scriptorium
