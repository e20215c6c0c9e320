import Scriptorium.Forms
import Scriptorium.Sorting
import Scriptorium.Template.Basic
import Scriptorium.Value.Arithmetic
import Scriptorium.Value.Pairs
set_option autoImplicit false

/-!
# The library of templates

Templates are kept under their identifiers, in the order in which these were first used.
-/

namespace Scriptorium.Template

/-- Templates under their identifiers (`TemplateService`). -/
structure Library where
  entries : List (Value × Template)
  deriving Repr

namespace Library

/-- The template under a key. -/
def get? (lib : Library) (key : Value) : Option Template :=
  (lib.entries.find? fun e => e.1.same key).map (·.2)

/-- Writes a template under a key; a key that is there keeps its place. -/
def putIn (key : Value) (t : Template) : List (Value × Template) → List (Value × Template)
  | [] => [(key, t)]
  | (k, old) :: rest => if k.same key then (k, t) :: rest else (k, old) :: putIn key t rest

/-- Writes a template under a key. -/
def put (lib : Library) (key : Value) (t : Template) : Library := ⟨putIn key t lib.entries⟩

/-- The templates in their order. -/
def templates (lib : Library) : List Template := lib.entries.map (·.2)

/-- The keys in their order. -/
def keys (lib : Library) : List Value := lib.entries.map (·.1)

/-- The identifier that a value stands for. -/
def readId [Halves] (v : Value) : Outcome Ident :=
  match Ident.read v.shown with
  | .ok id => .ok id
  | .error flaw => .error (.ident flaw)

/-- Looks up a template (`get_template`). -/
def find [Halves] (lib : Library) (id : Value) : Outcome (Option Template) := do
  return lib.get? (.ident (← readId id))

/-- Adds a template (`create_template`). -/
def create (lib : Library) (t : Template) : Outcome Library :=
  if (lib.get? t.id).isSome then .error (.template (.taken t.id))
  else .ok (lib.put t.id t)

/-- Updates a template (`update_template`); says what it is then. -/
def update [Halves] (lib : Library) (id : Value) (updates : Fields) (now : Stamp) :
    Outcome (Library × Option Template) := do
  match ← lib.find id with
  | none => return (lib, none)
  | some t =>
    let t := t.update updates now
    if t.id.isScalar then return (lib.put t.id t, some t)
    else throw (.unhashable t.id.kind)

/-- Deletes a template (`delete_template`); says whether it was there. -/
def delete [Halves] (lib : Library) (id : Value) : Outcome (Library × Bool) := do
  let key := Value.ident (← readId id)
  match lib.get? key with
  | none => return (lib, false)
  | some t =>
    if t.isDefault.truthy then throw (.template .isDefault)
    else return (⟨lib.entries.filter fun e => !e.1.same key⟩, true)

/-- Adds a copy of a template, always under the identifier without any bit
(`create_template_from_existing`). -/
def copy [Halves] (lib : Library) (source name description createdBy : Value) (now : Stamp) :
    Outcome (Library × Template) := do
  match ← lib.find source with
  | none => throw (.template (.noSource source))
  | some t =>
    let t := t.copied name description createdBy now
    return (← lib.create t, t)

/-- The default template of a type (`get_default_template`). -/
def default? (lib : Library) (category : String) : Option Template :=
  lib.templates.find? fun t => t.category.toValue.same (.text category) && t.isDefault.truthy

/-- Whether a template comes before another one: by type, then by name. -/
def before [Halves] (a b : Template) : Outcome Bool :=
  let x := a.category.toValue
  let y := b.category.toValue
  if x.same y then
    if a.name.same b.name then .ok false else a.name.less b.name
  else match x.less y with
    | .error (.notOrdered symbol _ _) =>
      .error (.notOrdered symbol a.category.label b.category.label)
    | other => other

/-- The templates of a type, or of all types, sorted (`get_templates`); without the default ones if
so asked. -/
def list [Halves] (lib : Library) (category : Option String) (withDefaults : Bool) :
    Outcome (List Template) :=
  let chosen := lib.templates.filter fun t =>
    (category.all fun c => t.category.toValue.same (.text c)) &&
      (withDefaults || !t.isDefault.truthy)
  Sorting.sort before chosen

/-- Renders a template of the library. -/
def render [Halves] (lib : Library) (id context : Value) (marked : Bool) : Outcome String := do
  match ← lib.find id with
  | none => throw (.template (.missing id))
  | some t => t.render context marked

/-- The type of templates that a value stands for. -/
def readCategory (v : Value) : Outcome String :=
  match v with
  | .text s => if Forms.templateTypes.contains s then .ok s else .error (.template (.noType v))
  | _ => .error (.template (.noType v))

/-! ## The library at the start -/

/-- The variables of the default templates. -/
def defaultVariables : Value :=
  .record [("project_name", .text "My Project"), ("version", .text "1.0.0"), ("author", .text "")]

/-- A default template with one section. -/
def defaultTemplate (id : Ident) (name description category : String) (s : Section) (now : Stamp) :
    Template :=
  { id := .ident id, name := .text name, description := .text description
    category := .known category, isDefault := .bool true, createdBy := .null
    version := .text "1.0.0", sections := .known [s], bindings := defaultVariables
    createdAt := .stamp now, updatedAt := .stamp now }

/-- The section of the default requirements specification. -/
def introduction : Section :=
  { id := "introduction", title := "1. Introduction", order := 1
    description := .text "Overview of the document and project"
    content := "## 1.1 Purpose\n" ++
      "This document describes the software requirements for \x7bproject_name\x7d.\n\n" ++
      "## 1.2 Scope\n" ++
      "This project involves the development of [briefly describe the system's purpose]."
    bindings := .list [], required := true }

/-- The section of the default design specification. -/
def architecture : Section :=
  { id := "architecture", title := "1. System Architecture", order := 1
    description := .text "High-level system architecture"
    content := "## 1.1 System Overview\n" ++
      "[Provide a high-level overview of the system architecture]\n\n" ++
      "## 1.2 Component Diagram\n" ++
      "[Include or describe the component diagram]"
    bindings := .list [], required := true }

/-- The library with its two default templates, which take the first two identifiers
(`_initialize_default_templates`). -/
def start (now : Stamp) : Library :=
  let first := defaultTemplate (Ident.ofSupply 1) "Standard SRS"
    "Default Software Requirements Specification template" "srs" introduction now
  let second := defaultTemplate (Ident.ofSupply 2) "Standard SDS"
    "Default Software Design Specification template" "sds" architecture now
  ⟨[(first.id, first), (second.id, second)]⟩

/-- The number of identifiers in use at the start. -/
def takenAtStart : Nat := 2

end Library

end Scriptorium.Template
