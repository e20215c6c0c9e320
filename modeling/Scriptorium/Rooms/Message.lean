import Scriptorium.Json.Reader
import Scriptorium.Rooms.Delivery
set_option autoImplicit false

/-!
# Messages of clients

A client sends texts.  A text that is a JSON object of a known type is carried out; any other text
is answered with one error to its sender.
-/

namespace Scriptorium.Rooms

variable [Halves]

/-- The types of messages. -/
inductive MessageType where
  | cursor
  | content
  | comment
  | presence
  | listing
  deriving DecidableEq, Repr

/-- The type with a name. -/
def MessageType.ofName? : String → Option MessageType
  | "cursor_update" => some .cursor
  | "content_update" => some .content
  | "comment" => some .comment
  | "presence_update" => some .presence
  | "get_presence" => some .listing
  | _ => none

/-- Who sends a message, where and when. -/
structure Sender where
  socket : Socket
  room : String
  user : Option String
  now : Stamp
  deriving Repr

/-- The time of a message as a field. -/
def Sender.stamped (s : Sender) : String × Value := ("timestamp", .text s.now.text)

/-- The sender's identifier as a field. -/
def Sender.signed (s : Sender) : String × Value := ("user_id", .ofText? s.user)

/-- Takes over what a client says about its presence, up to the first item that is no pair; says
whether all of it was taken over. -/
def takeOver (p : Presence) (status : Value) : Presence × Bool :=
  match status with
  | .record fields => (fields.foldl (fun p (name, v) => Value.putEntry p (.text name) v) p, true)
  | .list items => go p items
  | .text s => (p, s.isEmpty)
  | _ => (p, false)
where
  /-- Takes over pairs. -/
  go (p : Presence) : List Value → Presence × Bool
    | [] => (p, true)
    | item :: rest =>
      match Value.pair item with
      | .ok (key, value) => go (Value.putEntry p key value) rest
      | .error _ => (p, false)

/-- Notes that a user was seen. -/
def seen (now : Stamp) (p : Presence) : Presence := Value.putEntry p lastSeen (.text now.text)

/-- An error about missing fields. -/
def lacking (fields : String) : Value :=
  .record [("type", .text "error"),
    ("message", .text s!"Missing required fields: {fields} are required")]

/-- A field of a message. -/
def fieldOr (message : Fields) (name : String) (default : Value) : Value :=
  (Fields.get? message name).getD default

/-- Changes in a document go to the others, with an acknowledgement to the sender
(`handle_content_update`). -/
def shareContent (refuses : Refusals) (s : Sender) (message : Fields) (e : Effect) : Effect :=
  let changes := fieldOr message "changes" (.list [])
  match changes.truthy, fieldOr message "version" .null with
  | false, _ | _, .null => e.send refuses s.socket (.json (lacking "changes and version"))
  | true, version =>
    (e.broadcast refuses s.room (.record [("type", .text "content_update"), s.signed,
        ("changes", changes), ("version", version), s.stamped]) [s.socket]).send
      refuses s.socket (.json (.record [("type", .text "content_update_ack"),
        ("version", version), s.stamped]))

/-- A comment goes to everyone, the sender included, under a new identifier (`handle_comment`). -/
def shareComment (refuses : Refusals) (s : Sender) (message : Fields) (e : Effect) : Effect :=
  let comment := fieldOr message "comment" .null
  let range := fieldOr message "range" .null
  if comment.truthy && range.truthy then
    let e := { e with taken := e.taken + 1 }
    let id := "comment_" ++ String.ofList (Ident.ofSupply e.taken).digits
    e.broadcast refuses s.room (.record [("type", .text "comment"), ("id", .text id), s.signed,
      ("comment", comment), ("range", range), s.stamped, ("status", .text "active")]) []
  else e.send refuses s.socket (.json (lacking "comment and range"))

/-- The position of a cursor goes to the others (`handle_cursor_update`). -/
def shareCursor (refuses : Refusals) (s : Sender) (message : Fields) (e : Effect) : Effect :=
  e.broadcast refuses s.room (.record [("type", .text "cursor_update"), s.signed,
    ("position", fieldOr message "position" .null),
    ("user_info", fieldOr message "user_info" (.record [])), s.stamped]) [s.socket]

/-- A presence is taken over and goes to the others (`handle_presence_update`). -/
def sharePresence (refuses : Refusals) (s : Sender) (message : Fields) (e : Effect) : Effect :=
  let status := fieldOr message "status" (.record [])
  let whole := !e.rooms.isPresent s.room s.user || (takeOver [] status).2
  let e := e.change fun r => r.changePresence s.room s.user fun p => (takeOver p status).1
  if whole then
    (e.change fun r => r.changePresence s.room s.user (seen s.now)).broadcast refuses s.room
      (.record [("type", .text "presence_update"), s.signed, ("status", status), s.stamped])
      [s.socket]
  else { e with result := .error (.reported "") }

/-- Tells the sender who is present (`handle_get_presence`). -/
def listUsers (refuses : Refusals) (s : Sender) (e : Effect) : Effect :=
  e.send refuses s.socket (.json (.record [("type", .text "presence_info"),
    ("users", .list (e.rooms.usersIn s.room)), s.stamped]))

/-- Carries out a message of a known type. -/
def perform (refuses : Refusals) (s : Sender) (type : MessageType) (message : Fields) (e : Effect) :
    Effect :=
  let e := e.change fun r => r.changePresence s.room s.user (seen s.now)
  match type with
  | .cursor => shareCursor refuses s message e
  | .content => shareContent refuses s message e
  | .comment => shareComment refuses s message e
  | .presence => sharePresence refuses s message e
  | .listing => listUsers refuses s e

/-- An answer that something is wrong. -/
def complaint (text : String) : Payload := .json (.record [("error", .text text)])

/-- The type of a message that is known, if any are. -/
def knownType? (known : Bool) (type : Value) : Option MessageType :=
  if known then type.text?.bind MessageType.ofName? else none

/-- Carries out what a text says that has been read. -/
def dispatch (refuses : Refusals) (known : Bool) (s : Sender) (message : Value) (e : Effect) :
    Effect :=
  match message with
  | .record fields =>
    let type := fieldOr fields "type" .null
    if !type.truthy then e.send refuses s.socket (complaint "Message type is required")
    else if !type.isScalar then { e with result := .error (.unhashable type.kind) }
    else match knownType? known type with
      | some kind => perform refuses s kind fields e
      | none => e.send refuses s.socket (complaint s!"Unknown message type: {type.shown}")
  | other => { e with result := .error (.noMember other.kind.label "get") }

/-- Handles a text from a client (`handle_message`).  What fails is answered with an error; only if
that cannot be sent either does handling fail. -/
def handle (refuses : Refusals) (known : Bool) (s : Sender) (data : String) (e : Effect) : Effect :=
  match Json.read data with
  | .error (.malformed _) => e.send refuses s.socket (complaint "Invalid JSON format")
  | .error _ => e.send refuses s.socket (complaint "Internal server error")
  | .ok message =>
    let after := dispatch refuses known s message e
    match after.result with
    | .ok _ => after
    | .error _ =>
      { after with result := .ok () }.send refuses s.socket (complaint "Internal server error")

end Scriptorium.Rooms
