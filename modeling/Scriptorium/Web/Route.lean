import Scriptorium.Text.Search
import Scriptorium.Web.Endpoint
set_option autoImplicit false

/-!
# Paths and routes

A path is a list of steps; in the path of a route a step may stand for any text that is not
empty.  A route has a path and leads to an endpoint, a page, a socket or a folder.  The first route
whose path and method fit a request is taken.
-/

namespace Scriptorium.Web

/-! ## Paths -/

/-- A step of a route's path. -/
inductive Step where
  | literal (text : String)
  | variable (name : String)
  deriving DecidableEq, Repr

/-- The path of a route. -/
abbrev Pattern := List Step

namespace Pattern

/-- The steps of a path: what stands between its slashes. -/
def stepsOf (path : String) : List String :=
  (Text.splitAtChar '/' path.toList).map String.ofList

/-- Reads a pattern, in which a variable is written behind a colon. -/
def ofText (s : String) : Pattern :=
  (stepsOf s).map fun step => match step.toList with
    | ':' :: name => .variable (String.ofList name)
    | _ => .literal step

/-- A pattern below another one. -/
def below (base : String) (pattern : Pattern) : Pattern :=
  match pattern with
  | _ :: rest => ofText base ++ rest
  | [] => ofText base

/-- The text of a step. -/
def stepText : Step → String
  | .literal text => text
  | .variable name => "\x7b" ++ name ++ "\x7d"

/-- The text of a pattern. -/
def text (pattern : Pattern) : String := "/".intercalate (pattern.map stepText)

/-- The values of the variables of a pattern that a path fits.  A line end may stand behind the
last literal. -/
def fit? : Pattern → List String → Option (List (String × String))
  | [], [] => some []
  | [.literal text], [step] => if step = text ∨ step = text ++ "\n" then some [] else none
  | .literal text :: pattern, step :: steps => if text = step then fit? pattern steps else none
  | .variable name :: pattern, step :: steps =>
    if step.isEmpty then none else ((name, step) :: ·) <$> fit? pattern steps
  | _, _ => none

/-- Whether a path leads into the folder that a pattern names. -/
def holds : Pattern → List String → Bool
  | [], _ :: _ => true
  | .literal text :: pattern, step :: steps => text = step && holds pattern steps
  | _, _ => false

end Pattern

/-! ## Routes -/

/-- What a route leads to. -/
inductive Service where
  | endpoint (method : String) (e : Endpoint)
  /-- A page that describes the application. -/
  | page
  | socket
  | folder

/-- A route. -/
structure Route where
  pattern : Pattern
  name : String
  service : Service

namespace Route

/-- The route to an endpoint. -/
def lead (method path name : String) (e : Endpoint) : Route :=
  ⟨Pattern.ofText path, name, .endpoint method e⟩

/-- The route to a page of the application about itself. -/
def page (path name : String) : Route := ⟨Pattern.ofText path, name, .page⟩

/-- The route to a socket. -/
def socket (path name : String) : Route := ⟨Pattern.ofText path, name, .socket⟩

/-- The route to a folder. -/
def folder (path name : String) : Route := ⟨Pattern.ofText path, name, .folder⟩

/-- A route below a path. -/
def below (base : String) (route : Route) : Route :=
  { route with pattern := route.pattern.below base }

/-- The methods that a route names, sorted. -/
def methods (route : Route) : List String :=
  match route.service with
  | .endpoint method _ => [method]
  | .page => ["GET", "HEAD"]
  | .socket | .folder => []

/-- Whether a route takes a method. -/
def takes (route : Route) (method : String) : Bool :=
  match route.service with
  | .folder => true
  | _ => route.methods.contains method

/-- The variables of a route whose path fits. -/
def fit? (route : Route) (steps : List String) : Option (List (String × String)) :=
  match route.service with
  | .socket => none
  | .folder => if route.pattern.holds steps then some [] else none
  | _ => route.pattern.fit? steps

end Route

/-- Where a request leads. -/
inductive Choice where
  | found (service : Service) (captured : List (String × String))
  /-- The path fits, but the method does not. -/
  | wrongMethod
  | nowhere

/-- The first route that fits; if none does, whether there is one whose path fits. -/
def choose (method : String) (steps : List String) : List Route → Choice
  | [] => .nowhere
  | route :: rest => match route.fit? steps with
    | none => choose method steps rest
    | some captured =>
      if route.takes method then .found route.service captured
      else match choose method steps rest with
        | .nowhere => .wrongMethod
        | other => other

/-- The path with a slash more or less at its end; nothing for the path of one slash. -/
def otherPath? (path : String) : Option String :=
  if path = "/" then none
  else if path.toList.getLast? = some '/' then
    some (String.ofList (path.toList.reverse.dropWhile (· = '/')).reverse)
  else some (path ++ "/")

end Scriptorium.Web
