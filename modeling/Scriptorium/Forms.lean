import Scriptorium.Fault
import Scriptorium.Forms.Name
import Scriptorium.Schema.Check
import Scriptorium.Schema.Shape
set_option autoImplicit false

/-!
# Forms

The fields of every form.  A form that extends another one has its fields first; a field that it
declares again keeps its place.
-/

namespace Scriptorium.Forms

open Schema

/-- A field of a form. -/
abbrev FormField := Slot FormName

/-- A text of any length. -/
def anyText : Shape FormName := .text 0 none

/-- A float without bounds. -/
def anyReal : Shape FormName := .real none none

/-- A record with any values. -/
def anyRecord : Shape FormName := .mapping .anything

/-- Fields that replace those of the same name, the others following. -/
def extend (base more : List FormField) : List FormField :=
  base.map (fun f => (more.find? (·.name == f.name)).getD f) ++
    more.filter fun f => !base.any (·.name == f.name)

/-! ## Documents that belong to projects -/

/-- The kinds of documents in projects. -/
def paperKinds : List String := ["srs", "sds", "code", "other"]

/-- The document's free data, called without the underscore in requests. -/
def paperData (fallback : Value) : FormField :=
  ((Slot.defaulted "metadata_" anyRecord fallback).orNothing).called "metadata"

/-- What every document of a project has. -/
def paperBase : List FormField :=
  [.required "title" (.text 3 (some 200)),
    .optional "content" anyText,
    .defaulted "document_type" (.member paperKinds) (.text "other"),
    paperData (.record [])]

/-- What a kept document of a project has. -/
def paperStored : List FormField :=
  paperBase ++
    [.required "id" .whole, .required "project_id" .whole, .required "author_id" .whole,
      .required "created_at" .moment, .optional "updated_at" .moment]

/-! ## Projects -/

/-- What every project has. -/
def projectBase : List FormField :=
  [.required "name" (.text 3 (some 100)), .optional "description" (.text 0 (some 500))]

/-- What a kept project has. -/
def projectStored : List FormField :=
  projectBase ++
    [.required "id" .whole, .required "owner_id" .whole,
      .required "created_at" .moment, .optional "updated_at" .moment]

/-! ## Users -/

/-- What every user has. -/
def userBase : List FormField :=
  [.optional "email" anyText,
    .optional "full_name" anyText,
    (Slot.defaulted "is_active" .truth (.bool true)).orNothing,
    .defaulted "is_superuser" .truth (.bool false)]

/-- What a kept user has. -/
def userStored : List FormField :=
  userBase ++
    [.required "id" .whole, .required "created_at" .moment, .optional "updated_at" .moment]

/-! ## Drafting and reviewing -/

/-- The assistants that can be chosen. -/
def providers : List String := ["openai", "anthropic", "cohere"]

/-- The measures of a draft. -/
def draftAnalysis : List FormField :=
  [.required "word_count" .whole, .required "section_count" .whole,
    .required "coverage_score" (.real (some 0) (some 100)),
    .required "missing_sections" (.list anyText), .required "issues_found" .whole,
    .timed "timestamp"]

/-- A suggestion for a draft. -/
def draftSuggestion : List FormField :=
  [.required "type" anyText, .required "severity" anyText, .required "message" anyText,
    .required "suggestion" anyText, .optional "start_pos" .whole, .optional "end_pos" .whole]

/-- The outcome of comparing code with its documentation. -/
def review : List FormField :=
  [.required "consistency_score" (.real (some 0) (some 1)), .required "elements_analyzed" .whole,
    .required "issues_found" .whole, .required "issues" (.list anyRecord)]

/-- How an assistant is to be asked. -/
def assistantSettings : List FormField :=
  [.required "provider" (.member providers), .required "model_name" anyText,
    .defaulted "temperature" anyReal (.float 0.7), .defaulted "max_tokens" .whole (.int 2000),
    .defaulted "top_p" anyReal (.float 1.0),
    .defaulted "frequency_penalty" anyReal (.float 0.0),
    .defaulted "presence_penalty" anyReal (.float 0.0)]

/-! ## Documents that are edited together -/

/-- The levels of permission. -/
def permissionLevels : List String := ["viewer", "editor", "admin"]

/-- What every sheet has. -/
def sheetBase : List FormField :=
  [.required "title" anyText, .optional "description" anyText,
    .defaulted "is_public" .truth (.bool false)]

/-- What every version of a sheet has. -/
def sheetVersionBase : List FormField :=
  [.required "content" anyText, .optional "message" anyText, .optional "change_summary" anyRecord]

/-- What every comment on a version has. -/
def sheetCommentBase : List FormField :=
  [.required "content" anyText, .optional "range" anyRecord,
    .optional "parent_comment_id" .ident,
    (Slot.defaulted "metadata" anyRecord (.record [])).orNothing]

/-- What every message to a room has. -/
def socketMessage : List FormField :=
  [.required "type" anyText, .optional "client_id" anyText, .timed "timestamp"]

/-- A message whose type is fixed unless it is given. -/
def messageOf (type : String) (more : List FormField) : List FormField :=
  extend socketMessage (.defaulted "type" anyText (.text type) :: more)

/-! ## Templates -/

/-- The types of templates. -/
def templateTypes : List String := ["srs", "sds", "custom"]

/-- What every template has besides its parts. -/
def templateBase : List FormField :=
  [.required "name" anyText, .required "description" anyText,
    .required "type" (.member templateTypes), .defaulted "is_default" .truth (.bool false),
    .optional "created_by" .ident, .defaulted "version" anyText (.text "1.0.0")]

/-- The parts of a template. -/
def templateParts : List FormField :=
  [.defaulted "sections" (.list (.form .templateSection)) (.list []),
    .defaulted "variables" (.mapping anyText) (.record [])]

/-! ## The plain store and the writing service -/

/-- The kinds of documents that can be written. -/
def writtenKinds : List String := ["srs", "sds"]

/-- An identifier that is kept as text. -/
def textIdent : FormField := ⟨"id", anyText, .freshText, false, "id"⟩

/-- What the author of a kept document gives. -/
def storedBase : List FormField :=
  [.required "title" anyText, .required "content" anyText, .required "doc_type" anyText,
    .required "project_id" anyText, .optional "metadata" .table]

/-- What a document is written from. -/
def writingOrder : List FormField :=
  [.required "project_description" anyText,
    .required "code_snippets" (.list (.mapping anyText)),
    .required "document_type" (.constant writtenKinds), .optional "additional_context" anyText]

/-- The fields of a form. -/
def fields : FormName → List FormField
  | .paperBase => paperBase
  | .paperCreate => paperBase ++ [.required "project_id" .whole]
  | .paperUpdate =>
    [.optional "title" (.text 3 (some 200)), .optional "content" anyText,
      .optional "document_type" (.member paperKinds), paperData .null]
  | .paperStored | .paper => paperStored
  | .paperWithProject => paperStored ++ [.required "project" (.form .project)]
  | .projectBase | .projectCreate => projectBase
  | .projectUpdate => extend projectBase [.optional "name" (.text 3 (some 100))]
  | .projectStored | .project => projectStored
  | .projectWithPapers =>
    projectStored ++ [.defaulted "documents" (.list (.form .paper)) (.list [])]
  | .userBase => userBase
  | .userCreate => extend userBase [.required "email" anyText, .required "password" anyText]
  | .userUpdate => userBase ++ [.optional "password" anyText]
  | .userStored | .user => userStored
  | .userWithPassword => userStored ++ [.required "hashed_password" anyText]
  | .token => [.required "access_token" anyText, .required "token_type" anyText]
  | .tokenPayload => [.optional "sub" anyText]
  | .draftOrder =>
    [.required "document_type" (.member paperKinds), .required "project_id" .whole,
      .required "code_snippets" (.list anyText), .optional "project_description" anyText,
      .optional "additional_context" anyRecord]
  | .draftAnalysis => draftAnalysis
  | .draftSuggestion => draftSuggestion
  | .draft =>
    [.required "document" anyText, .required "analysis" (.form .draftAnalysis),
      .required "suggestions" (.list (.form .draftSuggestion))]
  | .reviewOrder =>
    [.required "code" anyText, .required "documentation" anyText, .optional "language" anyText]
  | .review => review
  | .assistantSettings => assistantSettings
  | .integrationCreate =>
    [.required "provider" (.member providers), .required "api_key" anyText,
      .required "model_name" anyText, .defaulted "is_active" .truth (.bool true)]
  | .integrationUpdate =>
    [.optional "api_key" anyText, .optional "model_name" anyText, .optional "is_active" .truth]
  | .integration =>
    [.required "id" .whole, .required "provider" anyText, .required "model_name" anyText,
      .required "is_active" .truth, .required "created_at" .moment,
      .optional "updated_at" .moment]
  | .draftKind =>
    [.required "name" anyText, .required "description" anyText,
      .required "sections" (.list (.mapping anyText)), .optional "example" anyText]
  | .sheetBase | .sheetCreate => sheetBase
  | .sheetVersionBase | .sheetVersionCreate => sheetVersionBase
  | .sheetCommentBase | .sheetCommentCreate => sheetCommentBase
  | .sheetUpdate =>
    [.optional "title" anyText, .optional "description" anyText, .optional "is_public" .truth]
  | .sheetVersionUpdate =>
    extend sheetVersionBase [.optional "content" anyText, .optional "message" anyText]
  | .sheetCommentUpdate =>
    extend sheetCommentBase [.optional "content" anyText, .optional "resolved" .truth]
  | .sheetUser =>
    [.required "id" .ident, .required "username" anyText, .required "email" anyText]
  | .sheet =>
    sheetBase ++
      [.required "id" .ident, .required "created_at" .moment, .required "updated_at" .moment,
        .required "created_by" .ident, .optional "versions_count" .whole]
  | .sheetVersion =>
    sheetVersionBase ++
      [.required "id" .ident, .required "document_id" .ident, .required "version_number" .whole,
        .required "author_id" .ident, .required "created_at" .moment,
        (Slot.defaulted "comment_count" .whole (.int 0)).orNothing]
  | .sheetComment =>
    sheetCommentBase ++
      [.required "id" .ident, .required "version_id" .ident, .required "author_id" .ident,
        .required "created_at" .moment, .defaulted "resolved" .truth (.bool false),
        .optional "resolved_by" .ident, .optional "resolved_at" .moment,
        .defaulted "replies" (.list (.form .sheetComment)) (.list [])]
  | .socketMessage => socketMessage
  | .cursorMessage =>
    messageOf "cursor_update"
      [.required "position" (.mapping .whole), .required "user" anyRecord]
  | .contentMessage =>
    messageOf "content_update" [.required "changes" anyRecord, .required "version" .whole]
  | .commentMessage =>
    messageOf "comment" [.required "comment" anyRecord, .optional "range" anyRecord]
  | .versionNotice =>
    messageOf "new_version"
      [.required "version_id" .ident, .required "version_number" .whole,
        .required "author_id" .ident, .optional "message" anyText]
  | .commentNotice =>
    messageOf "new_comment"
      [.required "comment_id" .ident, .required "version_id" .ident,
        .required "author_id" .ident, .required "content" anyText]
  | .permission =>
    [.required "user_id" .ident, .required "permission_level" (.member permissionLevels),
      .required "document_id" .ident]
  | .permissionUpdate => [.required "permission_level" (.member permissionLevels)]
  | .templateVariable =>
    [.required "name" anyText, .required "description" anyText,
      .optional "default_value" anyText, .defaulted "required" .truth (.bool true)]
  | .templateSection =>
    [.required "id" anyText, .required "title" anyText, .required "content" anyText,
      .optional "description" anyText,
      .defaulted "variables" (.list (.form .templateVariable)) (.list []),
      .defaulted "order" .whole (.int 0), .defaulted "required" .truth (.bool true)]
  | .templateBase => templateBase
  | .templateCreate => templateBase ++ templateParts
  | .templateUpdate =>
    [.optional "name" anyText, .optional "description" anyText,
      .optional "type" (.member templateTypes), .optional "is_default" .truth,
      .optional "version" anyText]
  | .template =>
    templateBase ++ [⟨"id", .ident, .freshIdent, false, "id"⟩] ++ templateParts ++
      [.timed "created_at", .timed "updated_at"]
  | .inputSnippet =>
    [textIdent, .required "language" anyText, .required "content" anyText,
      .optional "file_path" anyText, .timed "created_at"]
  | .inputComment =>
    [textIdent, .required "content" anyText, .required "author" anyText, .timed "created_at",
      .optional "line_number" .whole, .optional "file_path" anyText]
  | .inputPrompt =>
    [textIdent, .required "content" anyText, .optional "context" anyRecord, .timed "created_at",
      (Slot.defaulted "metadata" anyRecord (.record [])).orNothing]
  | .projectInput =>
    [.required "project_id" anyText,
      .defaulted "code_snippets" (.list (.form .inputSnippet)) (.list []),
      .defaulted "comments" (.list (.form .inputComment)) (.list []),
      .defaulted "user_prompts" (.list (.form .inputPrompt)) (.list []),
      .defaulted "metadata" anyRecord (.record []), .timed "created_at", .timed "updated_at"]
  | .storedSnippet =>
    [.required "language" anyText, .required "code" anyText, .required "file_path" anyText]
  | .generationRequest =>
    [.required "project_id" anyText, .required "project_description" anyText,
      .required "code_snippets" (.list (.form .storedSnippet)),
      .required "document_type" (.constant writtenKinds),
      .optional "additional_context" anyText]
  | .storedBase => storedBase
  | .stored =>
    storedBase ++
      [.required "id" anyText, .required "created_at" .moment, .required "updated_at" .moment]
  | .writingRequest => .required "project_id" anyText :: writingOrder
  | .writingOrder => writingOrder

/-- Forms whose fields may be given under their own names too. -/
def takesNames : FormName → Bool
  | .paperStored | .paper | .paperWithProject => true
  | _ => false

/-- Forms that may be taken from the members of any value. -/
def takesMembers : FormName → Bool
  | .paperStored | .paper | .paperWithProject
  | .projectStored | .project | .projectWithPapers
  | .userStored | .user | .userWithPassword
  | .integration => true
  | _ => false

/-- The form of a name. -/
def form (name : FormName) : Form FormName :=
  ⟨fields name, takesNames name, takesMembers name⟩

/-! ## Checked forms

Data are checked against a form before anything is made of them.
-/

/-- Checks data against a form: the fields, and the number of identifiers then in use.  `about` is
what a report of findings calls the form. -/
def checked [Halves] (name : FormName) (about : String) (now : Stamp) (data : Fields)
    (taken : Nat) :
    Outcome (Fields × Nat) :=
  match Schema.checkNamed form now name data taken with
  | .ok r => .ok r
  | .error findings => .error (.ofFindings about findings)

end Scriptorium.Forms
