import Scriptorium.Template.Shelf
import Scriptorium.Web.Answer
import Scriptorium.Web.Route
set_option autoImplicit false

/-!
# Routes to templates

Faults of values are told to the caller, all others are hidden behind one sentence for each
route.
-/

namespace Scriptorium.Api.Templates

open Schema Web

variable [Halves]

/-- Tells faults of values, and hides all others. -/
def guarded {α : Type} (otherwise : String) (act : Outcome α) : Outcome α :=
  match act with
  | .ok a => .ok a
  | .error f => match f.family with
    | .badValue | .rejection | .undecodable => .error (.refused 400 (.text f.message))
    | _ => .error (.refused 500 (.text otherwise))

/-- The fault of a template that is not there. -/
def notFound (id : Value) : Fault := .refused 404 (.text s!"Template not found: {id.shown}")

/-- The name of the parameter that all routes to one template have. -/
def ident : Slot FormName := .required "template_id" Forms.anyText

/-- The list of templates (`list_templates`). -/
def list : Endpoint where
  query := [.optional "template_type" (.member Forms.templateTypes),
    .defaulted "include_default" .truth (.bool true)]
  shown := .many .template
  run := Endpoint.reading fun call world => do
    let found ← match world.library.list ((call.arg "template_type").text?)
        (call.arg "include_default").truthy with
      | .ok found => pure found
      | .error _ => throw (.refused 500 (.text "Failed to retrieve templates"))
    return .value (.list (found.map (·.toValue)))

/-- One template (`get_template`). -/
def get : Endpoint where
  path := [ident]
  shown := .one .template
  run := Endpoint.reading fun call world => guarded "Failed to retrieve template" do
    match ← world.library.find (call.arg "template_id") with
    | some t => return .value t.toValue
    | none => throw (notFound (call.arg "template_id"))

/-- A new template (`create_template`). -/
def create : Endpoint where
  body := .whole "template_data" (.form .templateCreate) true
  status := 201
  shown := .one .template
  run := Endpoint.changing fun call world => guarded "Failed to create template" do
    let (shelf, made) := Template.Shelf.create ⟨world.library, world.taken⟩
      (call.changes "template_data") call.around.now
    let t ← made
    return ({ world with library := shelf.library, taken := shelf.taken }, .value t.toValue)

/-- Changes of a template (`update_template`). -/
def update : Endpoint where
  path := [ident]
  body := .whole "template_data" (.form .templateUpdate) true
  shown := .one .template
  run := Endpoint.changing fun call world => guarded "Failed to update template" do
    match ← world.library.update (call.arg "template_id") (call.changes "template_data")
        call.around.now with
    | (library, some t) => return ({ world with library := library }, .value t.toValue)
    | (_, none) => throw (notFound (call.arg "template_id"))

/-- The end of a template (`delete_template`). -/
def delete : Endpoint where
  path := [ident]
  status := 204
  run := Endpoint.changing fun call world => guarded "Failed to delete template" do
    match ← world.library.delete (call.arg "template_id") with
    | (library, true) => return ({ world with library := library }, .final 204 .null)
    | (_, false) => throw (notFound (call.arg "template_id"))

/-- A copy of a template (`duplicate_template`). -/
def duplicate : Endpoint where
  path := [ident]
  query := [.required "name" Forms.anyText, .optional "description" Forms.anyText,
    .optional "created_by" Forms.anyText]
  shown := .one .template
  run := Endpoint.changing fun call world => guarded "Failed to duplicate template" do
    let id := call.arg "template_id"
    let given := call.text "description"
    let description := if given.isEmpty then s!"Copy of {id.shown}" else given
    let creator := call.arg "created_by"
    let creator ← if creator.truthy then .ident <$> Template.Library.readId creator else pure .null
    let (library, t) ← world.library.copy id (call.arg "name") (.text description) creator
      call.around.now
    return ({ world with library := library }, .value t.toValue)

/-- What is told about a section of a template that was rendered. -/
def sectionFacts (s : Template.Section) : Value :=
  .record [("id", .text s.id), ("title", .text s.title), ("description", s.description),
    ("order", .int s.order), ("required", .bool s.required), ("variables", s.bindings)]

/-- A template with its variables filled in (`render_template`). -/
def render : Endpoint where
  path := [ident]
  query := [.defaulted "include_section_ids" .truth (.bool false)]
  body := .whole "context" Forms.anyRecord false
  run := Endpoint.reading fun call world => guarded "Failed to render template" do
    let id := call.arg "template_id"
    let context := if (call.arg "context").truthy then call.arg "context" else .record []
    let content ← world.library.render id context (call.arg "include_section_ids").truthy
    match ← world.library.find id with
    | none => throw (notFound id)
    | some t =>
      let sections := match t.sections with
        | .known sections => sections.map sectionFacts
        | .loose _ => []
      return .value (.record [("template_id", .text t.id.shown), ("template_name", t.name),
        ("template_type", t.category.toValue), ("content", .text content),
        ("variables", t.bindings), ("sections", .list sections)])

/-- The routes to templates. -/
def routes : List Route :=
  [.lead "GET" "/" "list_templates" list,
    .lead "GET" "/:template_id" "get_template" get,
    .lead "POST" "/" "create_template" create,
    .lead "PUT" "/:template_id" "update_template" update,
    .lead "DELETE" "/:template_id" "delete_template" delete,
    .lead "POST" "/:template_id/duplicate" "duplicate_template" duplicate,
    .lead "POST" "/:template_id/render" "render_template" render]

end Scriptorium.Api.Templates
