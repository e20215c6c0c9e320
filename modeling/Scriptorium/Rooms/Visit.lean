import Scriptorium.Rooms.Message
set_option autoImplicit false

/-!
# Visits

A visit is a whole connection: the client is accepted, joins a room, sends its messages one after
the other and leaves.  A visit ends at the first message whose answer cannot be sent; the client
leaves the room in any case.
-/

namespace Scriptorium.Rooms

variable [Halves]

/-- Handles messages until one of them fails. -/
def handleAll (refuses : Refusals) (known : Bool) (s : Sender) (incoming : List String)
    (e : Effect) : Effect :=
  incoming.foldl (fun e data => e.andThen (handle refuses known s data)) e

/-- What happens between joining a room and leaving it. -/
def stay (refuses : Refusals) (s : Sender) (incoming : List String) (e : Effect) : Effect :=
  let e := e.change fun r => (r.connect s.socket s.room s.user s.now).1
  let e := e.broadcast refuses s.room
    (.record [("type", .text "user_joined"), s.signed, s.stamped]) [s.socket]
  let e := e.send refuses s.socket (.json (.record [("type", .text "init"),
    ("document_id", .text s.room), s.stamped]))
  handleAll refuses false s incoming e

/-- A visit to a room (`websocket_endpoint`).  No type of messages is known there. -/
def visit (refuses : Refusals) (s : Sender) (incoming : List String) (e : Effect) : Effect :=
  (e.send refuses s.socket .accept).andThen fun e =>
    let e := stay refuses s incoming e
    { e with rooms := e.rooms.disconnect s.socket s.room s.user, result := .ok () }

/-- The code of a connection that is closed because it is not allowed. -/
def policyViolation : Nat := 1008

/-- A visit to a stored document: one that does not exist is closed, any other fails before the
room is joined. -/
def visitStored (refuses : Refusals) (stored : Bool) (s : Sender) (e : Effect) : Effect :=
  if stored then { e with result := .error (.unbound "logging") }
  else e.send refuses s.socket (.close policyViolation)

end Scriptorium.Rooms
