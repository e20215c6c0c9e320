import Scriptorium.Account
import Scriptorium.Web.Answer
import Scriptorium.Web.Route
set_option autoImplicit false

/-!
# Serving requests

A request is answered in phases: a route is chosen, the content is read, the caller is
recognised, the parameters are checked, the endpoint is run, and its result is checked.  The
first phase that fails gives the answer.
-/

namespace Scriptorium.Web

open Schema

variable [Halves]

/-- An application. -/
structure Application where
  routes : List Route
  manner : Manner := .plain

/-! ## Callers -/

/-- The token of a header that names the scheme of bearers, in any case. -/
def tokenOf (authorization : Option String) : Outcome String :=
  let header := (authorization.getD "").toList
  if Text.lowerChars (header.takeWhile (· != ' ')) = "bearer".toList then
    .ok (String.ofList ((header.dropWhile (· != ' ')).drop 1))
  else .error (.refused 401 (.text "Not authenticated"))

/-- The row of the caller, if one is needed. -/
def callerOf (callers : Callers) (around : Surroundings) (world : World) (request : Request) :
    Outcome Row := do
  match callers with
  | .everybody => return []
  | .users => find
  | .activeUsers => Account.require .active (← find)
where
  find : Outcome Row := do
    Account.ofToken around.signer around.now (world.database.table "User")
      (← tokenOf request.authorization)

/-! ## Endpoints -/

/-- The answer to content that cannot be read. -/
def unread (manner : Manner) : Unread → Answer
  | .notJson error document =>
    .unprocessable manner [⟨[.text "body", .int error.index], .notJson error document⟩]
  | .unparsable => .refusal manner 400 (.text "There was an error parsing the body")

/-- Reads content for an endpoint. -/
def contentFor (body : Body) (content : Content) : Except Unread Payload :=
  match body with
  | .none => .ok .absent
  | .form _ => content.readForm
  | _ => content.readBody

/-- The answer with a result. -/
def finish (endpoint : Endpoint) (now : Stamp) (result : Result) : Answer :=
  match result with
  | .final status body => { status, body := some body }
  | result => match checkResult now endpoint.shown result with
    | .ok v =>
      { status := endpoint.status, body := some (exposed (keyedResult endpoint.shown v)) }
    | .error findings => .broken (.ofFindings "" findings)

/-- Answers a request to an endpoint. -/
def Endpoint.answer (endpoint : Endpoint) (manner : Manner) (captured : List (String × String))
    (around : Surroundings) (request : Request) (world : World) : World × Answer :=
  match contentFor endpoint.body request.content with
  | .error e => (world, unread manner e)
  | .ok payload =>
    match callerOf endpoint.callers around world request with
    | .error f => (world, .ofFault manner f)
    | .ok caller =>
      match readParams endpoint around.now captured request payload with
      | .error findings => (world, .unprocessable manner findings)
      | .ok taken =>
        match endpoint.run ⟨around, taken.args, taken.given, taken.files, caller⟩ world with
        | (world, .error f) => (world, .ofFault manner f)
        | (world, .ok result) => (world, finish endpoint around.now result)

/-! ## Applications -/

/-- The address of a request at another path. -/
def addressAt (host path : String) (request : Request) : String :=
  let query := request.queryText
  host ++ path ++ (if query.isEmpty then "" else "?" ++ query)

/-- The answer of a folder, in which no file is found; there are no files of some names. -/
def fromFolder (manner : Manner) (request : Request) : Answer :=
  if request.method != "GET" && request.method != "HEAD" then .phrased manner 405
  else if request.realPath.toList.contains '\x00' then .broken (.unaccepted "embedded null byte")
  else .phrased manner 404

/-- The answer to a request that no route takes. -/
def Application.unrouted (app : Application) (host : String) (request : Request) : Answer :=
  match otherPath? request.realPath with
  | none => .phrased app.manner 404
  | some path =>
    match choose request.method (Pattern.stepsOf path) app.routes with
    | .nowhere => .phrased app.manner 404
    | _ => .redirect (addressAt host path request)

/-- Answers a request with something that may not be sendable. -/
def Application.respond (app : Application) (around : Surroundings) (request : Request)
    (world : World) : World × Answer :=
  match choose request.method (Pattern.stepsOf request.realPath) app.routes with
  | .found (.endpoint _ e) captured => e.answer app.manner captured around request world
  | .found .folder _ => (world, fromFolder app.manner request)
  | .found _ _ => (world, { status := 200 })
  | .wrongMethod => (world, .phrased app.manner 405)
  | .nowhere => (world, app.unrouted around.host request)

/-- Answers a request. -/
def Application.serve (app : Application) (around : Surroundings) (request : Request)
    (world : World) : World × Answer :=
  let (world, answer) := app.respond around request world
  (world, answer.sent)

end Scriptorium.Web
