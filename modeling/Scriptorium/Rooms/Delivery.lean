import Scriptorium.Fault
import Scriptorium.Rooms.Basic
set_option autoImplicit false

/-!
# Deliveries

What is sent to sockets is data: a list of deliveries in the order of sending.  A socket may refuse
some kinds of deliveries; refusing is a failure of the one who sends.
-/

namespace Scriptorium.Rooms

/-- The kinds of deliveries. -/
inductive Channel where
  | text
  | json
  | accept
  | close
  deriving DecidableEq, Repr

/-- What is sent. -/
inductive Payload where
  | text (content : String)
  | json (content : Value)
  | accept
  | close (code : Nat)
  deriving Repr

/-- The kind of what is sent. -/
def Payload.channel : Payload → Channel
  | text _ => .text
  | json _ => .json
  | accept => .accept
  | close _ => .close

/-- Something sent to a socket. -/
structure Delivery where
  socket : Socket
  payload : Payload
  deriving Repr

/-- Which sockets refuse which kinds of deliveries. -/
abbrev Refusals := Socket → Channel → Bool

/-- The users of a room whom a broadcast is meant for. -/
def audience (r : Rooms) (room : String) (except : List Socket) (exceptUsers : List String) :
    List (String × Socket) :=
  (r.socketsIn room).filter fun (user, socket) =>
    !(except.contains socket || exceptUsers.contains user)

/-- Sends a text to the users of a room (`broadcast`); those whose socket refuses it leave the room.
-/
def broadcast (r : Rooms) (refuses : Refusals) (room text : String) (except : List Socket)
    (exceptUsers : List String) : Rooms × List Delivery :=
  let targets := r.audience room except exceptUsers
  let (lost, reached) := targets.partition fun (_, socket) => refuses socket .text
  (lost.foldl (fun r (user, socket) => r.disconnect socket room (some user)) r,
    reached.map fun (_, socket) => ⟨socket, .text text⟩)

/-- What an action has done so far: the registers, what was sent, how many identifiers are in use,
and whether it goes on. -/
structure Effect where
  rooms : Rooms
  sent : List Delivery
  taken : Nat
  result : Outcome Unit

namespace Effect

/-- Nothing done yet. -/
def start (r : Rooms) (taken : Nat) : Effect := ⟨r, [], taken, .ok ()⟩

/-- Goes on unless the action has failed. -/
def andThen (e : Effect) (next : Effect → Effect) : Effect :=
  match e.result with
  | .ok _ => next e
  | .error _ => e

/-- Sends something to a socket. -/
def send (e : Effect) (refuses : Refusals) (socket : Socket) (payload : Payload) : Effect :=
  e.andThen fun e =>
    if refuses socket payload.channel then { e with result := .error .socketClosed }
    else { e with sent := e.sent ++ [⟨socket, payload⟩] }

/-- Sends a text to the users of a room. -/
def broadcast [Halves] (e : Effect) (refuses : Refusals) (room : String) (message : Value)
    (except : List Socket) : Effect :=
  e.andThen fun e =>
    let (rooms, sent) := e.rooms.broadcast refuses room (Json.write Json.spaced message) except []
    { e with rooms := rooms, sent := e.sent ++ sent }

/-- Changes the registers. -/
def change (e : Effect) (f : Rooms → Rooms) : Effect :=
  e.andThen fun e => { e with rooms := f e.rooms }

end Effect

end Scriptorium.Rooms
