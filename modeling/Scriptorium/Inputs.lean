import Scriptorium.Fault
import Scriptorium.Text.Case
import Scriptorium.Text.Search
set_option autoImplicit false

/-!
# Inputs of projects

A project collects code snippets, comments and prompts.  A project comes into being when its input
is created, or when the first item is added to it.
-/

namespace Scriptorium.Inputs

/-- The text of a field that has been checked. -/
def textOf (fields : Fields) (name : String) : String :=
  ((Fields.get? fields name).bind Value.text?).getD ""

/-- The value of a field that has been checked. -/
def valueOf (fields : Fields) (name : String) : Value := (Fields.get? fields name).getD .null

/-! ## Items -/

/-- A piece of code (`CodeSnippet`). -/
structure Snippet where
  id : String
  language : String
  content : String
  filePath : Option String
  createdAt : Value
  deriving Repr

/-- A snippet from its checked fields. -/
def Snippet.ofFields (fields : Fields) : Snippet :=
  ⟨textOf fields "id", textOf fields "language", textOf fields "content",
    (valueOf fields "file_path").text?, valueOf fields "created_at"⟩

/-- A snippet as a record. -/
def Snippet.toValue (s : Snippet) : Value :=
  .record [("id", .text s.id), ("language", .text s.language), ("content", .text s.content),
    ("file_path", .ofText? s.filePath), ("created_at", s.createdAt)]

/-- A comment. -/
structure Comment where
  id : String
  content : String
  author : String
  createdAt : Value
  lineNumber : Value
  filePath : Option String
  deriving Repr

/-- A comment from its checked fields. -/
def Comment.ofFields (fields : Fields) : Comment :=
  ⟨textOf fields "id", textOf fields "content", textOf fields "author",
    valueOf fields "created_at", valueOf fields "line_number", (valueOf fields "file_path").text?⟩

/-- A comment as a record. -/
def Comment.toValue (c : Comment) : Value :=
  .record [("id", .text c.id), ("content", .text c.content), ("author", .text c.author),
    ("created_at", c.createdAt), ("line_number", c.lineNumber),
    ("file_path", .ofText? c.filePath)]

/-- A prompt of a user (`UserPrompt`). -/
structure Prompt where
  id : String
  content : String
  context : Value
  createdAt : Value
  metadata : Value
  deriving Repr

/-- A prompt from its checked fields. -/
def Prompt.ofFields (fields : Fields) : Prompt :=
  ⟨textOf fields "id", textOf fields "content", valueOf fields "context",
    valueOf fields "created_at", valueOf fields "metadata"⟩

/-- A prompt as a record. -/
def Prompt.toValue (p : Prompt) : Value :=
  .record [("id", .text p.id), ("content", .text p.content), ("context", p.context),
    ("created_at", p.createdAt), ("metadata", p.metadata)]

/-! ## Projects -/

/-- What a project has collected (`ProjectInput`). -/
structure Project where
  projectId : String
  snippets : List Snippet
  comments : List Comment
  prompts : List Prompt
  metadata : Value
  createdAt : Value
  updatedAt : Value
  deriving Repr

/-- The records of a field that has been checked. -/
def recordsOf (fields : Fields) (name : String) : List Fields :=
  (((valueOf fields name).list?).getD []).map fun v => (v.record?).getD []

/-- A project from its checked fields. -/
def Project.ofFields (fields : Fields) : Project :=
  { projectId := textOf fields "project_id"
    snippets := (recordsOf fields "code_snippets").map Snippet.ofFields
    comments := (recordsOf fields "comments").map Comment.ofFields
    prompts := (recordsOf fields "user_prompts").map Prompt.ofFields
    metadata := valueOf fields "metadata"
    createdAt := valueOf fields "created_at"
    updatedAt := valueOf fields "updated_at" }

/-- A project that has collected nothing. -/
def Project.empty (id : String) (now : Stamp) : Project :=
  ⟨id, [], [], [], .record [], .stamp now, .stamp now⟩

/-- A project as a record. -/
def Project.toValue (p : Project) : Value :=
  .record [("project_id", .text p.projectId),
    ("code_snippets", .list (p.snippets.map (·.toValue))),
    ("comments", .list (p.comments.map (·.toValue))),
    ("user_prompts", .list (p.prompts.map (·.toValue))),
    ("metadata", p.metadata), ("created_at", p.createdAt), ("updated_at", p.updatedAt)]

/-- All projects, in the order of their making. -/
abbrev Store := List (String × Project)

/-- A request about a project that is not there, or is there already. -/
def refuse (status : Nat) (detail : String) : Fault := .refused status (.text detail)

/-- Adds a project with what it has collected so far (`create_project_input`). -/
def create (store : Store) (id : String) (p : Project) : Outcome Store :=
  if Fields.has store id then .error (refuse 400 "Project input already exists")
  else .ok (Fields.put store id p)

/-- What a project has collected (`get_project_inputs`). -/
def get (store : Store) (id : String) : Outcome Project :=
  match Fields.get? store id with
  | some p => .ok p
  | none => .error (refuse 404 "Project not found")

/-- Adds to a project, which is made if it is not there. -/
def addTo (store : Store) (id : String) (now : Stamp) (add : Project → Project) : Store :=
  let p := (Fields.get? store id).getD (.empty id now)
  Fields.put store id { add p with updatedAt := .stamp now }

/-- Adds a snippet (`add_code_snippet`). -/
def addSnippet (store : Store) (id : String) (s : Snippet) (now : Stamp) : Store :=
  addTo store id now fun p => { p with snippets := p.snippets ++ [s] }

/-- Adds a comment (`add_comment`). -/
def addComment (store : Store) (id : String) (c : Comment) (now : Stamp) : Store :=
  addTo store id now fun p => { p with comments := p.comments ++ [c] }

/-- Adds a prompt (`add_user_prompt`). -/
def addPrompt (store : Store) (id : String) (prompt : Prompt) (now : Stamp) : Store :=
  addTo store id now fun p => { p with prompts := p.prompts ++ [prompt] }

/-! ## Searching -/

/-- Whether a text holds a query, whatever the case of their letters. -/
def holds (query text : String) : Bool :=
  Text.occursIn (Text.lowerChars query.toList) (Text.lowerChars text.toList)

/-- What a search finds. -/
structure Found where
  snippets : List Snippet
  comments : List Comment
  prompts : List Prompt
  deriving Repr

/-- Findings as a record. -/
def Found.toValue (f : Found) : Value :=
  .record [("code_snippets", .list (f.snippets.map (·.toValue))),
    ("comments", .list (f.comments.map (·.toValue))),
    ("user_prompts", .list (f.prompts.map (·.toValue)))]

/-- Whether a snippet is found: by its content, or by its path if that is not empty. -/
def Snippet.matches (query : String) (s : Snippet) : Bool :=
  holds query s.content || (s.filePath.any fun path => !path.isEmpty && holds query path)

/-- The items of a project that hold a query (`search_inputs`). -/
def search (store : Store) (id query : String) : Found :=
  match Fields.get? store id with
  | none => ⟨[], [], []⟩
  | some p =>
    ⟨p.snippets.filter (·.matches query), p.comments.filter fun c => holds query c.content,
      p.prompts.filter fun prompt => holds query prompt.content⟩

end Scriptorium.Inputs
