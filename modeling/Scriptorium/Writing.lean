import Scriptorium.Assistant
import Scriptorium.Writing.Prompt
set_option autoImplicit false

/-!
# Writing whole documents

A document is written in one conversation.  The answer has to be waited for, so one that cannot be
waited for is a failure.
-/

namespace Scriptorium.Writing

variable [Halves]

/-- The model that writes. -/
def model : String := "gpt-4-turbo"

/-- What the assistant is asked. -/
def request (kind brief : String) : Request where
  model := model
  messages := [⟨"system", writer kind⟩, ⟨"user", brief⟩]
  temperature := 0.7
  maxTokens := 3000

/-- The first draft of an answer that has been waited for. -/
def awaited (reply : Reply) : Outcome (Option String) :=
  match reply with
  | .drafts _ false => .error .notAwaitable
  | other => other.firstDraft

/-- Writes a document (`generate_document`): what the assistant was asked, and its text, which may
be nothing. -/
def write (kind : String) (description snippets context : Value) (reply : Reply) :
    List Request × Outcome (Option String) :=
  let failed (f : Fault) : Outcome (Option String) :=
    .error (.reported s!"Error generating document: {f.message}")
  match brief description snippets context with
  | .error f => ([], failed f)
  | .ok text =>
    ([request kind text], match awaited reply with
      | .ok document => .ok document
      | .error f => failed f)

/-- Answers a request whose fields have been checked. -/
def answer (fields : Fields) (reply : Reply) : List Request × Outcome Value :=
  let get (name : String) : Value := (Fields.get? fields name).getD .null
  let kind := get "document_type"
  let (asked, written) := write ((kind.text?).getD "") (get "project_description")
    (get "code_snippets") (get "additional_context") reply
  (asked, match written with
    | .ok document =>
      .ok (.record [("status", .text "success"), ("document_type", kind),
        ("content", Value.ofText? document), ("project_id", get "project_id")])
    | .error f => .error (.refused 500 (.text s!"Failed to generate document: {f.message}")))

end Scriptorium.Writing
