import Scriptorium.Cabinet
import Scriptorium.Database
import Scriptorium.Documentation.Report
import Scriptorium.Forms
import Scriptorium.Health
import Scriptorium.Template.Library
import Scriptorium.Token
import Scriptorium.Users
import Scriptorium.Web.Request
set_option autoImplicit false

/-!
# Endpoints

An endpoint says which parameters it takes from the path, the query and the content of a
request, whether it needs a caller, what it does, and which form its result has.  What it does
is a function from the call and the world to the new world and a result; everything else is the
same for all endpoints.
-/

namespace Scriptorium.Web

open Schema

/-! ## The world -/

/-- What requests act on. -/
structure World where
  library : Template.Library
  cabinet : Cabinet := []
  database : Database := {}
  health : Health
  /-- The number of identifiers in use. -/
  taken : Nat := Template.Library.takenAtStart

/-- What a request meets besides the world. -/
structure Surroundings where
  now : Stamp
  signer : Token.Signer
  /-- What the assistant replies. -/
  reply : Reply
  /-- What the checker of grammar marks. -/
  marks : List Value
  similarities : List Value
  documentation : Documentation.Surroundings
  /-- The address at which the application is reached. -/
  host : String := "http://localhost"
  /-- How passwords are kept. -/
  secrets : Secret.Scheme := .plain
  /-- What complaints about queries call them. -/
  queryLabel : String := "Query"

/-! ## Parameters -/

/-- A parameter in the content of a request. -/
inductive FormParam where
  | text (field : Slot FormName)
  | file (name : String)
  /-- One or more files of one name. -/
  | files (name : String)

/-- What an endpoint takes from the content of a request. -/
inductive Body where
  | none
  /-- The content is one value. -/
  | whole (name : String) (shape : Shape FormName) (needed : Bool)
  /-- The content is a record that holds one value. -/
  | embedded (name : String) (shape : Shape FormName)
  | form (params : List FormParam)

/-- Whether anything is taken from the content. -/
def Body.isNone : Body → Bool
  | .none => true
  | _ => false

/-- Who may call an endpoint. -/
inductive Callers where
  | everybody
  | users
  | activeUsers
  deriving DecidableEq, Repr

/-! ## Calls and results -/

/-- A call of an endpoint. -/
structure Call where
  around : Surroundings
  /-- The parameters by name. -/
  args : Fields := []
  /-- The names of the fields that the content gave. -/
  given : List String := []
  files : List (String × Part) := []
  /-- The caller's row. -/
  caller : Row := []

namespace Call

/-- A parameter. -/
def arg (c : Call) (name : String) : Value := (Fields.get? c.args name).getD .null

/-- A parameter that is a text. -/
def text (c : Call) (name : String) : String := ((c.arg name).text?).getD ""

/-- A parameter that is a whole number. -/
def whole (c : Call) (name : String) : Int := ((c.arg name).int?).getD 0

/-- A parameter that is a record. -/
def record (c : Call) (name : String) : Fields := ((c.arg name).record?).getD []

/-- The fields of a record that the content gave. -/
def changes (c : Call) (name : String) : Fields :=
  (c.record name).filter fun (field, _) => c.given.contains field

/-- A parameter that is a file. -/
def file (c : Call) (name : String) : Part := (c.files.lookup name).getD { name := name }

/-- The caller's number. -/
def number (c : Call) : Value := Row.get c.caller "id"

end Call

/-- What an endpoint gives. -/
inductive Result where
  | value (v : Value)
  | row (r : Row)
  | rows (rs : Table)
  /-- An answer that is not looked at any more. -/
  | final (status : Nat) (body : Value)
  deriving Repr

/-- The form of what an endpoint gives. -/
inductive Shown where
  | plain
  | one (name : FormName)
  | many (name : FormName)
  deriving Repr

/-- An endpoint. -/
structure Endpoint where
  path : List (Slot FormName) := []
  query : List (Slot FormName) := []
  body : Body := .none
  callers : Callers := .everybody
  status : Nat := 200
  shown : Shown := .plain
  run : Call → World → World × Outcome Result

namespace Endpoint

/-- What is done by an endpoint that changes nothing. -/
def reading (act : Call → World → Outcome Result) : Call → World → World × Outcome Result :=
  fun call world => (world, act call world)

/-- What is done by an endpoint that changes the world if it succeeds. -/
def changing (act : Call → World → Outcome (World × Result)) :
    Call → World → World × Outcome Result :=
  fun call world => match act call world with
    | .ok (world, result) => (world, .ok result)
    | .error f => (world, .error f)

end Endpoint

end Scriptorium.Web
