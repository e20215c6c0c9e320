import Scriptorium.Fault
import Scriptorium.Pattern
import Scriptorium.Value.Access
set_option autoImplicit false

/-!
# Templates

A template is a list of sections with patterns, and variables that the patterns may name.  A new
template has checked fields.  An update is stored as it is given, so any field of a template may
hold any value after it; sections that come from an update have no members of their own.
-/

namespace Scriptorium

namespace Template

/-- A section of a template (`TemplateSection`). -/
structure Section where
  id : String
  title : String
  /-- The pattern of the section. -/
  content : String
  description : Value
  bindings : Value
  order : Int
  required : Bool
  deriving Repr, Inhabited

namespace Section

/-- A section from its checked fields. -/
def ofFields (fields : Fields) : Section :=
  let text (name : String) : String := ((Fields.get? fields name).bind Value.text?).getD ""
  { id := text "id"
    title := text "title"
    content := text "content"
    description := (Fields.get? fields "description").getD .null
    bindings := (Fields.get? fields "variables").getD (.list [])
    order := ((Fields.get? fields "order").bind Value.int?).getD 0
    required := ((Fields.get? fields "required").map Value.truthy).getD true }

/-- A section as a record. -/
def toValue (s : Section) : Value :=
  .record [("id", .text s.id), ("title", .text s.title), ("content", .text s.content),
    ("description", s.description), ("variables", s.bindings), ("order", .int s.order),
    ("required", .bool s.required)]

end Section

/-- The sections of a template. -/
inductive Sections where
  | known (sections : List Section)
  /-- Sections as an update gave them. -/
  | loose (v : Value)
  deriving Repr

/-- Sections as a value. -/
def Sections.toValue : Sections → Value
  | known sections => .list (sections.map (·.toValue))
  | loose v => v

/-- Sections from an update: an empty list is as good as a checked one. -/
def Sections.ofUpdate : Value → Sections
  | .list [] => known []
  | v => loose v

/-- The type of a template. -/
inductive Category where
  | known (name : String)
  /-- A type as an update gave it. -/
  | loose (v : Value)
  deriving Repr

/-- A type as a value. -/
def Category.toValue : Category → Value
  | known name => .text name
  | loose v => v

/-- What messages call the kind of a type. -/
def Category.label : Category → String
  | known _ => "TemplateType"
  | loose v => v.kind.label

end Template

/-- A template. -/
structure Template where
  id : Value
  name : Value
  description : Value
  category : Template.Category
  isDefault : Value
  createdBy : Value
  version : Value
  sections : Template.Sections
  bindings : Value
  createdAt : Value
  updatedAt : Value
  deriving Repr

namespace Template

/-- A template from its checked fields. -/
def ofFields (fields : Fields) : Template :=
  let get (name : String) : Value := (Fields.get? fields name).getD .null
  { id := get "id"
    name := get "name"
    description := get "description"
    category := .known (((get "type").text?).getD "")
    isDefault := get "is_default"
    createdBy := get "created_by"
    version := get "version"
    sections := .known ((((get "sections").list?).getD []).map fun s =>
      Section.ofFields ((s.record?).getD []))
    bindings := get "variables"
    createdAt := get "created_at"
    updatedAt := get "updated_at" }

/-- A template as a record. -/
def toFields (t : Template) : Fields :=
  [("name", t.name), ("description", t.description), ("type", t.category.toValue),
    ("is_default", t.isDefault), ("created_by", t.createdBy), ("version", t.version),
    ("id", t.id), ("sections", t.sections.toValue), ("variables", t.bindings),
    ("created_at", t.createdAt), ("updated_at", t.updatedAt)]

/-- A template as a value. -/
def toValue (t : Template) : Value := .record t.toFields

/-- Stores one value of an update. -/
def set (t : Template) (name : String) (v : Value) : Template :=
  match name with
  | "id" => { t with id := v }
  | "name" => { t with name := v }
  | "description" => { t with description := v }
  | "type" => { t with category := .loose v }
  | "is_default" => { t with isDefault := v }
  | "created_by" => { t with createdBy := v }
  | "version" => { t with version := v }
  | "sections" => { t with sections := .ofUpdate v }
  | "variables" => { t with bindings := v }
  | "created_at" => { t with createdAt := v }
  | "updated_at" => { t with updatedAt := v }
  | _ => t

/-- Stores the values of an update. -/
def update (t : Template) (updates : Fields) (now : Stamp) : Template :=
  { updates.foldl (fun t (name, v) => t.set name v) t with updatedAt := .stamp now }

/-- The template that a copy is, with the identifier without any bit. -/
def copied (t : Template) (name description createdBy : Value) (now : Stamp) : Template :=
  { t with
    id := .ident .nil, name := name, description := description, isDefault := .bool false
    createdBy := createdBy, createdAt := .stamp now, updatedAt := .stamp now }

/-- Puts a section in the place of the first one with its identifier, or at the end. -/
def putSection (sections : List Section) (s : Section) : List Section :=
  match sections with
  | [] => [s]
  | first :: rest => if first.id = s.id then s :: rest else first :: putSection rest s

/-- The items of loose sections; if there are any, they lack the member that is asked for. -/
def looseItems (v : Value) (member : String) : Outcome Unit := do
  match ← v.items with
  | [] => return ()
  | item :: _ => throw (.noMember item.kind.label member)

/-- Adds a section, or replaces the one with its identifier (`add_section`). -/
def addSection (t : Template) (s : Section) (now : Stamp) : Outcome Template := do
  match t.sections with
  | .known sections =>
    return { t with sections := .known (putSection sections s), updatedAt := .stamp now }
  | .loose v =>
    looseItems v "id"
    throw (.noMember v.kind.label "append")

/-- Removes all sections with an identifier (`remove_section`); says whether there were any. -/
def removeSection (t : Template) (id : Value) (now : Stamp) : Outcome (Template × Bool) := do
  match t.sections with
  | .known sections =>
    let kept := sections.filter fun s => !(Value.text s.id).same id
    let t := { t with sections := .known kept }
    if kept.length < sections.length then return ({ t with updatedAt := .stamp now }, true)
    else return (t, false)
  | .loose v =>
    discard v.size
    looseItems v "id"
    return ({ t with sections := .known [] }, false)

/-! ## Rendering

The sections of a template are filled in by their order, those of one order as they stand.  A
section that names something unknown is left out; any other failure is the failure of rendering.
There are two ways to fill a section: with variables and context at once, where no name may be in
both, and with the variables first and the context after that.
-/

/-- The sections in the order in which they are written. -/
def Sections.ordered : Sections → Outcome (List Section)
  | known sections => .ok (sections.mergeSort fun a b => a.order ≤ b.order)
  | loose v => do
    looseItems v "order"
    return []

/-- Bindings from a value that has to be a record. -/
def bindingsOf (v : Value) : Outcome Fields :=
  match v with
  | .record fields => .ok fields
  | _ => .error (.pattern (.noBindings v.kind))

/-- Variables and context at once. -/
def joinedBindings (bindings context : Value) : Outcome Fields := do
  let first ← bindingsOf bindings
  let second ← bindingsOf context
  match second.find? fun (name, _) => Fields.has first name with
  | some (name, _) => throw (.pattern (.boundTwice name))
  | none => return first ++ second

/-- The written sections: those whose filling misses a name are left out. -/
def write (fill : Section → Outcome String) (heading : Section → String) :
    List Section → Outcome (List String)
  | [] => .ok []
  | s :: rest =>
    match fill s with
    | .ok body => (write fill heading rest).map (s!"{heading s}\n\n{body}" :: ·)
    | .error (.missingKey _) => write fill heading rest
    | .error f => .error f

/-- The heading of a section. -/
def title (s : Section) : String := s!"# {s.title}"

/-- The heading of a section behind a comment with its identifier. -/
def markedTitle (s : Section) : String := s!"<!-- section:{s.id} -->\n{title s}"

/-- A context: nothing and empty values stand for no bindings. -/
def contextOf (v : Value) : Value := if v.truthy then v else .record []

/-- Renders with variables and context at once (`render_template`). -/
def render [Halves] (t : Template) (context : Value) (marked : Bool) : Outcome String := do
  let sections ← t.sections.ordered
  let fill (s : Section) : Outcome String := do
    Pattern.fill (← joinedBindings t.bindings (contextOf context)) s.content
  let texts ← write fill (if marked then markedTitle else title) sections
  return "\n\n".intercalate texts

/-- Renders with the variables first, and what that gives with the context (`render`). -/
def renderTwice [Halves] (t : Template) (context : Value) : Outcome String := do
  let sections ← t.sections.ordered
  let fill (s : Section) : Outcome String := do
    let once ← Pattern.fill (← bindingsOf t.bindings) s.content
    Pattern.fill (← bindingsOf (contextOf context)) once
  let texts ← write fill title sections
  return "\n\n".intercalate texts

end Template

end Scriptorium
