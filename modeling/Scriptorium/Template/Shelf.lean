import Scriptorium.Forms
import Scriptorium.Template.Library
set_option autoImplicit false

/-!
# The shelf of templates

A library together with the supply of identifiers.  New templates and sections are made of data
that are checked first; identifiers that were given out stay used.
-/

namespace Scriptorium.Template

/-- A library and the number of identifiers in use. -/
structure Shelf where
  library : Library
  taken : Nat
  deriving Repr

namespace Shelf

/-- The shelf at the start. -/
def start (now : Stamp) : Shelf := ⟨Library.start now, Library.takenAtStart⟩

/-- Adds a template made of data. -/
def create [Halves] (s : Shelf) (data : Fields) (now : Stamp) : Shelf × Outcome Template :=
  match Forms.checked .template "Template" now data s.taken with
  | .error f => (s, .error f)
  | .ok (fields, taken) =>
    let t := Template.ofFields fields
    match s.library.create t with
    | .ok library => (⟨library, taken⟩, .ok t)
    | .error f => ({ s with taken := taken }, .error f)

/-- The template under an identifier, of which a member is asked. -/
def asked [Halves] (s : Shelf) (id : Value) (member : String) : Outcome Template := do
  match ← s.library.find id with
  | some t => return t
  | none => throw (.noMember Kind.nothing.label member)

/-- Writes a template under an identifier. -/
def put [Halves] (s : Shelf) (id : Value) (t : Template) : Outcome Shelf := do
  return { s with library := s.library.put (.ident (← Library.readId id)) t }

/-- Renders a template with the variables first, and what that gives with the context. -/
def renderTwice [Halves] (s : Shelf) (id context : Value) : Outcome String := do
  (← s.asked id "render").renderTwice context

/-- Adds a section made of data to a template. -/
def addSection [Halves] (s : Shelf) (id : Value) (data : Fields) (now : Stamp) :
    Outcome (Shelf × Template) := do
  let t ← s.asked id "add_section"
  let (fields, _) ← Forms.checked .templateSection "TemplateSection" now data s.taken
  let t ← t.addSection (.ofFields fields) now
  return (← s.put id t, t)

/-- Removes the sections with an identifier from a template; says whether there were any. -/
def removeSection [Halves] (s : Shelf) (id sectionId : Value) (now : Stamp) :
    Outcome (Shelf × Template × Bool) := do
  let (t, removed) ← (← s.asked id "remove_section").removeSection sectionId now
  return (← s.put id t, t, removed)

/-! ## Requests -/

/-- What can be asked of a shelf. -/
inductive Request where
  | create (data : Fields)
  /-- The templates of a type, or of all types if none is given. -/
  | list (category : Value) (withDefaults : Bool)
  | default (category : Value)
  | get (id : Value)
  | update (id : Value) (updates : Fields)
  | delete (id : Value)
  | copy (source name description createdBy : Value)
  | render (id context : Value) (marked : Bool)
  | renderTwice (id context : Value)
  | addSection (id : Value) (data : Fields)
  | removeSection (id sectionId : Value)
  deriving Repr

/-- A template as an answer; nothing if there is none. -/
def shown (t : Option Template) : Value := (t.map (·.toValue)).getD .null

/-- Keeps what was done, if nothing went wrong. -/
def settle (s : Shelf) (done : Outcome (Shelf × Value)) : Shelf × Outcome Value :=
  match done with
  | .ok (s, v) => (s, .ok v)
  | .error f => (s, .error f)

/-- The type in a request for a list. -/
def chosenCategory (category : Value) : Outcome (Option String) :=
  match category with
  | .null => .ok none
  | _ => some <$> Library.readCategory category

/-- Answers a request. -/
def answer [Halves] (s : Shelf) (now : Stamp) : Request → Shelf × Outcome Value
  | .create data =>
    let (s, made) := s.create data now
    (s, Template.toValue <$> made)
  | .list category withDefaults => (s, do
    let found ← s.library.list (← chosenCategory category) withDefaults
    return .list (found.map (·.toValue)))
  | .default category => (s, (shown <| s.library.default? ·) <$> Library.readCategory category)
  | .get id => (s, shown <$> s.library.find id)
  | .update id updates => s.settle do
    let (library, t) ← s.library.update id updates now
    return ({ s with library }, shown t)
  | .delete id => s.settle do
    let (library, found) ← s.library.delete id
    return ({ s with library }, .bool found)
  | .copy source name description createdBy => s.settle do
    let (library, t) ← s.library.copy source name description createdBy now
    return ({ s with library }, t.toValue)
  | .render id context marked => (s, .text <$> s.library.render id context marked)
  | .renderTwice id context => (s, .text <$> s.renderTwice id context)
  | .addSection id data => s.settle do
    let (s, t) ← s.addSection id data now
    return (s, t.toValue)
  | .removeSection id sectionId => s.settle do
    let (s, t, removed) ← s.removeSection id sectionId now
    return (s, .record [("removed", .bool removed), ("template", t.toValue)])

end Shelf

end Scriptorium.Template
