import Scriptorium.Forms
import Scriptorium.Inputs
set_option autoImplicit false

/-!
# Taking in inputs

The store of inputs together with the supply of identifiers.  Data are checked, made into an item
and added; the answer is a receipt.
-/

namespace Scriptorium.Inputs

/-- A store and the number of identifiers in use. -/
structure Intake where
  store : Store := []
  taken : Nat := 0
  deriving Repr

namespace Intake

/-- The receipt for an item: what it is, and its identifier under a key. -/
def receipt (what key id : String) : Value :=
  .record [("message", .text s!"{what} added successfully"), (key, .text id)]

/-- Adds a project made of data.  The identifiers of good data stay used if the project is there
already. -/
def create [Halves] (s : Intake) (id : String) (data : Fields) (now : Stamp) :
    Intake × Outcome Value :=
  match Forms.checked .projectInput "ProjectInput" now data s.taken with
  | .error f => (s, .error f)
  | .ok (fields, taken) =>
    match Inputs.create s.store id (.ofFields fields) with
    | .ok store => (⟨store, taken⟩, .ok (.record
        [("message", .text "Project input created successfully"), ("project_id", .text id)]))
    | .error f => ({ s with taken := taken }, .error f)

/-- Adds a snippet made of data. -/
def addSnippet [Halves] (s : Intake) (id : String) (data : Fields) (now : Stamp) :
    Outcome (Intake × Value) := do
  let (fields, taken) ← Forms.checked .inputSnippet "CodeSnippet" now data s.taken
  let item := Snippet.ofFields fields
  return (⟨Inputs.addSnippet s.store id item now, taken⟩,
    receipt "Code snippet" "snippet_id" item.id)

/-- Adds a comment made of data. -/
def addComment [Halves] (s : Intake) (id : String) (data : Fields) (now : Stamp) :
    Outcome (Intake × Value) := do
  let (fields, taken) ← Forms.checked .inputComment "Comment" now data s.taken
  let item := Comment.ofFields fields
  return (⟨Inputs.addComment s.store id item now, taken⟩, receipt "Comment" "comment_id" item.id)

/-- Adds a prompt made of data. -/
def addPrompt [Halves] (s : Intake) (id : String) (data : Fields) (now : Stamp) :
    Outcome (Intake × Value) := do
  let (fields, taken) ← Forms.checked .inputPrompt "UserPrompt" now data s.taken
  let item := Prompt.ofFields fields
  return (⟨Inputs.addPrompt s.store id item now, taken⟩,
    receipt "User prompt" "prompt_id" item.id)

/-! ## Requests -/

/-- What can be asked of an intake. -/
inductive Request where
  | create (id : String) (data : Fields)
  | get (id : String)
  | addSnippet (id : String) (data : Fields)
  | addComment (id : String) (data : Fields)
  | addPrompt (id : String) (data : Fields)
  | search (id query : String)

/-- Keeps what was added, if nothing went wrong. -/
def settle (s : Intake) (done : Outcome (Intake × Value)) : Intake × Outcome Value :=
  match done with
  | .ok (s, v) => (s, .ok v)
  | .error f => (s, .error f)

/-- Answers a request. -/
def answer [Halves] (s : Intake) (now : Stamp) : Request → Intake × Outcome Value
  | .create id data => s.create id data now
  | .get id => (s, Project.toValue <$> Inputs.get s.store id)
  | .addSnippet id data => s.settle (s.addSnippet id data now)
  | .addComment id data => s.settle (s.addComment id data now)
  | .addPrompt id data => s.settle (s.addPrompt id data now)
  | .search id query => (s, .ok (Inputs.search s.store id query).toValue)

end Intake

end Scriptorium.Inputs
