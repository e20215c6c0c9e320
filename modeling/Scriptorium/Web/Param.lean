import Scriptorium.Schema.Check
import Scriptorium.Web.Endpoint
set_option autoImplicit false

/-!
# Reading parameters

The parameters of an endpoint are read from the path, the query and the content, in this order,
and all findings are reported together.
-/

namespace Scriptorium.Web

open Schema

variable [Halves]

/-- The value of a parameter, or what is wrong with it. -/
abbrev Read (α : Type) := Except (List Finding) α

/-- Checks a value at a place. -/
def checkOne (now : Stamp) (shape : Shape FormName) (place : List Value) (v : Value) : Read Value :=
  (·.1) <$> checkAt Forms.form now shape place v 0

/-- A parameter that is not there. -/
def absent (now : Stamp) (field : Slot FormName) (place : List Value) : Read Value :=
  match field.fallback.fill now 0 with
  | some (v, _) => .ok v
  | none => .error [⟨place, .missing⟩]

/-- A parameter that is given as a text. -/
def readText (now : Stamp) (source : String) (field : Slot FormName) (given : Option String) :
    Read (String × Value) := do
  let place : List Value := [.text source, .text field.name]
  match given with
  | some s => return (field.name, ← checkOne now field.shape place (.text s))
  | none => return (field.name, ← absent now field place)

/-- What has been read from the content. -/
structure Taken where
  args : Fields := []
  given : List String := []
  files : List (String × Part) := []

/-- The names of the fields that a value gives to a shape. -/
def givenBy (shape : Shape FormName) (v : Value) : List String :=
  match shape with
  | .form name => match partsOf (Forms.form name) v with
    | .ok parts => givenNames Forms.form name parts
    | .error _ => []
  | _ => []

/-- The last item of a form under a name. -/
def lastItem? (items : List (String × Item)) (name : String) : Option Item :=
  (items.reverse.find? (·.1 = name)).map (·.2)

/-- Reads a parameter of a form; a text without characters is not there. -/
def readFormParam (now : Stamp) (items : List (String × Item)) : FormParam → Read Taken
  | .text field =>
    let place : List Value := [.text "body", .text field.name]
    match lastItem? items field.name with
    | some (.file _) => .error [⟨place, .notText⟩]
    | some (.text s) => do
      let v ← if s.isEmpty then absent now field place else checkOne now field.shape place (.text s)
      return { args := [(field.name, v)] }
    | none => do return { args := [(field.name, ← absent now field place)] }
  | .file name =>
    let place : List Value := [.text "body", .text name]
    match lastItem? items name with
    | some (.file part) => .ok { files := [(name, part)] }
    | some (.text s) =>
      if s.isEmpty then .error [⟨place, .missing⟩] else .error [⟨place, .notUpload .text⟩]
    | none => .error [⟨place, .missing⟩]
  | .files name =>
    let place : List Value := [.text "body", .text name]
    let found := (items.filter (·.1 = name)).map (·.2)
    if found.isEmpty then .error [⟨place, .missing⟩]
    else
      let findings := found.zipIdx.filterMap fun (item, i) => match item with
        | .text _ => some (⟨place ++ [.int i], .notUpload .text⟩ : Finding)
        | .file _ => none
      if findings.isEmpty then
        .ok { files := found.filterMap fun
          | .file part => some (name, part)
          | .text _ => none }
      else .error findings

/-- Joins what was read, or all findings. -/
def join : List (Read Taken) → Read Taken
  | [] => .ok {}
  | first :: rest => match first, join rest with
    | .ok a, .ok b => .ok ⟨a.args ++ b.args, a.given ++ b.given, a.files ++ b.files⟩
    | .error fs, .ok _ => .error fs
    | .ok _, .error gs => .error gs
    | .error fs, .error gs => .error (fs ++ gs)

/-- Reads what an endpoint takes from the content. -/
def readContent (now : Stamp) (body : Body) (payload : Payload) : Read Taken :=
  match body with
  | .none => .ok {}
  | .whole name shape needed =>
    let place : List Value := [.text "body"]
    match payload with
    | .absent | .data .null | .form _ =>
      if needed then .error [⟨place, .missing⟩] else .ok { args := [(name, .null)] }
    | .bytes => .error [⟨place, .notRecord⟩]
    | .data v => do
      return { args := [(name, ← checkOne now shape place v)], given := givenBy shape v }
  | .embedded name shape =>
    let place : List Value := [.text "body", .text name]
    match payload with
    | .data (.record fields) => match Fields.get? fields name with
      | none | some .null => .error [⟨place, .missing⟩]
      | some v => do return { args := [(name, ← checkOne now shape place v)] }
    | _ => .error [⟨place, .missing⟩]
  | .form params => match payload with
    | .form items => join (params.map (readFormParam now items))
    | _ => join (params.map (readFormParam now []))

/-- Reads all parameters of an endpoint. -/
def readParams (endpoint : Endpoint) (now : Stamp) (captured : List (String × String))
    (request : Request) (payload : Payload) : Read Taken :=
  let one (r : Read (String × Value)) : Read Taken := do return { args := [← r] }
  join <|
    (endpoint.path.map fun field => one (readText now "path" field (captured.lookup field.name))) ++
    (endpoint.query.map fun field =>
      one (readText now "query" field (request.queried? field.name))) ++
    [readContent now endpoint.body payload]

end Scriptorium.Web
