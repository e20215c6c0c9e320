import Scriptorium.Json.Writer
import Scriptorium.Stamp
import Scriptorium.Text.Half
import Scriptorium.Value.Pairs
set_option autoImplicit false

/-!
# Rooms

Users meet in rooms, one for each document.  Three registers are kept: the socket of each user in
each room, the rooms of each user, and what is known about each user's presence in each room.  A
room that was ever looked into stays in the registers.
-/

namespace Scriptorium

namespace Rooms

/-- A connection to a client. -/
abbrev Socket := Nat

/-- What is known about a user's presence.  Clients may put values under any key. -/
abbrev Presence := List (Value × Value)

/-- The key of the time at which a user was last seen. -/
def lastSeen : Value := .text "last_seen"

/-- The presence of a user who has just come. -/
def online (now : Stamp) : Presence :=
  [(lastSeen, .text now.text), (.text "status", .text "online")]

/-- A presence as a record. -/
def presenceValue [Halves] (p : Presence) : Value :=
  .record (Fields.merge [] (p.map fun (key, value) => (Json.keyName key, value)))

end Rooms

/-- The registers of all rooms (`ConnectionManager`). -/
structure Rooms where
  /-- Room, user, socket. -/
  connections : List (String × List (String × Rooms.Socket)) := []
  /-- User, rooms. -/
  subscriptions : List (String × List String) := []
  /-- Room, user, presence. -/
  presence : List (String × List (String × Rooms.Presence)) := []
  deriving Repr

namespace Rooms

/-- A user identifier that is given and not empty. -/
def named? (user : Option String) : Option String := user.filter fun u => !u.isEmpty

/-- The user identifier of a socket: the given one, or one made up for the socket. -/
def userOf (socket : Socket) (user : Option String) : String :=
  (named? user).getD s!"anonymous_{socket}"

/-- The sockets in a room, by user. -/
def socketsIn (r : Rooms) (room : String) : List (String × Socket) :=
  (Fields.get? r.connections room).getD []

/-- The presences in a room, by user. -/
def presencesIn (r : Rooms) (room : String) : List (String × Presence) :=
  (Fields.get? r.presence room).getD []

/-- The rooms of a user. -/
def roomsOf (r : Rooms) (user : String) : List String :=
  (Fields.get? r.subscriptions user).getD []

/-- Adds an item that is not there. -/
def addOnce (items : List String) (item : String) : List String :=
  if items.contains item then items else items ++ [item]

/-- Registers a socket under a user in a room (`connect`); says who the user is. -/
def connect (r : Rooms) (socket : Socket) (room : String) (user : Option String) (now : Stamp) :
    Rooms × String :=
  let user := userOf socket user
  ({ connections := Fields.put r.connections room (Fields.put (r.socketsIn room) user socket)
     subscriptions := Fields.put r.subscriptions user (addOnce (r.roomsOf user) room)
     presence := Fields.put r.presence room (Fields.put (r.presencesIn room) user (online now)) },
    user)

/-- Takes a name out of one room of a register. -/
def eraseIn {α : Type} (register : List (String × List (String × α))) (room user : String) :
    List (String × List (String × α)) :=
  match Fields.get? register room with
  | none => register
  | some users => Fields.put register room (Fields.erase users user)

/-- Takes a room from a user; a user without rooms is taken from the register. -/
def unsubscribe (register : List (String × List String)) (user room : String) :
    List (String × List String) :=
  match Fields.get? register user with
  | none => register
  | some rooms =>
    let rooms := rooms.filter (· != room)
    if rooms.isEmpty then Fields.erase register user else Fields.put register user rooms

/-- Takes a user out of a room. -/
def leave (r : Rooms) (room user : String) : Rooms where
  connections := eraseIn r.connections room user
  subscriptions := unsubscribe r.subscriptions user room
  presence := eraseIn r.presence room user

/-- Looks into a room, which then is in the register of connections. -/
def lookInto (r : Rooms) (room : String) : Rooms :=
  if Fields.has r.connections room then r
  else { r with connections := Fields.put r.connections room [] }

/-- Takes the given user out of a room, or if none is given the first one with this socket
(`disconnect`). -/
def disconnect (r : Rooms) (socket : Socket) (room : String) (user : Option String) : Rooms :=
  match named? user with
  | some user => r.leave room user
  | none =>
    let r := r.lookInto room
    match (r.socketsIn room).find? fun (_, s) => s == socket with
    | some (user, _) => r.leave room user
    | none => r

/-- The users who are present in a room (`get_connected_users`); what a client put under the key of
the identifier replaces it. -/
def usersIn [Halves] (r : Rooms) (room : String) : List Value :=
  (r.presencesIn room).map fun (user, p) =>
    .record (Fields.merge [("user_id", .text user)] (p.map fun (k, v) => (Json.keyName k, v)))

/-- Changes the presence of a user who is in a room. -/
def changePresence (r : Rooms) (room : String) (user : Option String) (f : Presence → Presence) :
    Rooms :=
  match user, Fields.get? r.presence room with
  | some user, some users =>
    match Fields.get? users user with
    | some p => { r with presence := Fields.put r.presence room (Fields.put users user (f p)) }
    | none => r
  | _, _ => r

/-- Whether a user is present in a room. -/
def isPresent (r : Rooms) (room : String) (user : Option String) : Bool :=
  user.any fun u => Fields.has (r.presencesIn room) u

/-- The registers as a record. -/
def toValue [Halves] (r : Rooms) : Value :=
  .record [
    ("connections", .record (r.connections.map fun (room, users) =>
      (room, .record (users.map fun (user, socket) => (user, .int socket))))),
    ("subscriptions", .record (r.subscriptions.map fun (user, rooms) =>
      (user, .list ((rooms.mergeSort fun a b => !Text.precedes b a).map .text)))),
    ("presence", .record (r.presence.map fun (room, users) =>
      (room, .record (users.map fun (user, p) => (user, presenceValue p)))))]

end Rooms

end Scriptorium
