import Scriptorium.Fault
set_option autoImplicit false

/-!
# The writing assistant

Documents are drafted by an outside assistant.  A request holds the conversation and how to
answer; the reply is given to the library from outside.
-/

namespace Scriptorium

/-- One turn of a conversation. -/
structure Message where
  role : String
  content : String
  deriving DecidableEq, Repr

/-- What the assistant is asked. -/
structure Request where
  model : String
  messages : List Message
  temperature : Float
  maxTokens : Nat
  deriving Repr

/-- A request as a record. -/
def Request.toValue (r : Request) : Value :=
  .record [("model", .text r.model),
    ("messages", .list (r.messages.map fun m =>
      .record [("role", .text m.role), ("content", .text m.content)])),
    ("temperature", .float r.temperature), ("max_tokens", .int r.maxTokens)]

/-- What the assistant answers: it may fail, or give several drafts, some of them empty.  Only
an awaitable answer can be waited for. -/
inductive Reply where
  | failure (text : String)
  | drafts (choices : List (Option String)) (awaitable : Bool)
  deriving DecidableEq, Repr

namespace Reply

/-- The reply when the assistant cannot be reached. -/
def unreachable : Reply := .failure "Connection error."

/-- The first draft, which may be empty; no draft at all is a fault. -/
def firstDraft : Reply → Outcome (Option String)
  | failure text => .error (.reported text)
  | drafts (first :: _) _ => .ok first
  | drafts [] _ => .error .listRange

end Reply

end Scriptorium
