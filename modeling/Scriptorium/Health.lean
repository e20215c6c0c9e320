import Scriptorium.Value.Shown
set_option autoImplicit false

/-!
# Health

What the server reports about itself.
-/

namespace Scriptorium

/-- What the server knows about itself. -/
structure Health where
  /-- The version of the database, if it can be reached. -/
  database : Option String
  environment : String
  /-- How many documents have clients. -/
  rooms : Nat
  deriving Repr

/-- The report of a server at `now` (`health_check`). -/
def Health.report (health : Health) (now : Stamp) : Value :=
  let reached := health.database.isSome
  .record
    [("status", .text (if reached then "ok" else "error")),
     ("version", .text "1.0.0"),
     ("database", .record
       [("status", .text (if reached then "connected" else "disconnected")),
        ("version", .text (health.database.getD "unknown")),
        ("type", .text "sqlite")]),
     ("timestamp", .text now.text),
     ("environment", .text health.environment),
     ("websockets", .record [("active_connections", .int health.rooms)])]

end Scriptorium
