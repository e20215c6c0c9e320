import Scriptorium.Users
import Scriptorium.Web.Answer
import Scriptorium.Web.Route
set_option autoImplicit false

/-!
# Routes to users

Registration and login are open to everybody; the other routes need an active user.
-/

namespace Scriptorium.Api.Users

open Schema Web

variable [Halves]

/-- The parameters of a window of rows. -/
def windowed (limit : Int) : List (Slot FormName) :=
  [.defaulted "skip" .whole (.int 0), .defaulted "limit" .whole (.int limit)]

/-- The parameter of a user's number. -/
def number : Slot FormName := .required "user_id" .whole

/-- A new user; `taken` is told if the address is known. -/
def register (taken : String) : Endpoint where
  body := .whole "user_in" (.form .userCreate) true
  shown := .one .user
  run := Endpoint.reading fun call world =>
    let given := call.record "user_in"
    .row <$> Scriptorium.Users.register world.database call.around.secrets (Row.get given "email")
      (Row.get given "password") taken

/-- A token for a user with a password. -/
def login : Endpoint where
  body := .form ([⟨"grant_type", .starting "password", .value .null, false, "grant_type"⟩,
      .required "username" Forms.anyText, .required "password" Forms.anyText,
      .defaulted "scope" Forms.anyText (.text ""), .optional "client_id" Forms.anyText,
      .optional "client_secret" Forms.anyText].map .text)
  shown := .one .token
  run := Endpoint.reading fun call world => do
    let token ← Scriptorium.Users.login world.database call.around.secrets call.around.signer
      call.around.now (call.text "username") (call.text "password")
    return .value (.record [("access_token", .text token), ("token_type", .text "bearer")])

/-- The caller (`read_users_me`, `read_user_me`). -/
def me : Endpoint where
  callers := .activeUsers
  shown := .one .user
  run := Endpoint.reading fun call _ => .ok (.row call.caller)

/-- Changes of a row. -/
def change (call : Call) (world : World) (number : Value) (row : Row) :
    Outcome (World × Result) := do
  let (database, row) ← Scriptorium.Users.update world.database call.around.secrets number row
    (call.changes "user_in")
  return ({ world with database := database }, .row row)

/-- Changes of the caller (`update_user_me`). -/
def updateMe : Endpoint where
  body := .whole "user_in" (.form .userUpdate) true
  callers := .activeUsers
  shown := .one .user
  run := Endpoint.changing fun call world => change call world call.number call.caller

/-- The end of the caller (`delete_user_me`). -/
def deleteMe : Endpoint where
  callers := .activeUsers
  status := 204
  run := Endpoint.changing fun call world =>
    .ok ({ world with database := Scriptorium.Users.delete world.database call.number },
      .value .null)

/-- Some users (`read_users`). -/
def list : Endpoint where
  query := windowed 100
  callers := .activeUsers
  shown := .many .user
  run := Endpoint.reading fun call world => do
    Scriptorium.Users.requireSuperuser call.caller
    return .rows (Table.window (call.whole "skip") (call.whole "limit")
      (world.database.table Scriptorium.Users.table))

/-- One user. -/
def get : Endpoint where
  path := [number]
  callers := .activeUsers
  shown := .one .user
  run := Endpoint.reading fun call world => do
    Scriptorium.Users.requireSuperuser call.caller
    return .row (← Scriptorium.Users.read world.database (call.arg "user_id"))

/-- Changes of a user. -/
def update : Endpoint where
  path := [number]
  body := .whole "user_in" (.form .userUpdate) true
  callers := .activeUsers
  shown := .one .user
  run := Endpoint.changing fun call world => do
    Scriptorium.Users.requireSuperuser call.caller
    let row ← Scriptorium.Users.read world.database (call.arg "user_id")
    change call world (call.arg "user_id") row

/-- The end of a user. -/
def delete : Endpoint where
  path := [number]
  callers := .activeUsers
  status := 204
  run := Endpoint.changing fun call world => do
    Scriptorium.Users.requireSuperuser call.caller
    discard (Scriptorium.Users.read world.database (call.arg "user_id"))
    return ({ world with
      database := Scriptorium.Users.delete world.database (call.arg "user_id") }, .value .null)

/-- The routes by which users come in. -/
def entryRoutes : List Route :=
  [.lead "POST" "/register" "register_user"
      (register "The user with this email already exists in the system."),
    .lead "POST" "/login" "login" login,
    .lead "GET" "/me" "read_users_me" me]

/-- The routes to users. -/
def routes : List Route :=
  [.lead "GET" "/" "read_users" list,
    .lead "POST" "/" "create_user" (register "Email already registered"),
    .lead "GET" "/me" "read_user_me" me,
    .lead "PUT" "/me" "update_user_me" updateMe,
    .lead "DELETE" "/me" "delete_user_me" deleteMe,
    .lead "GET" "/:user_id" "read_user" get,
    .lead "PUT" "/:user_id" "update_user" update,
    .lead "DELETE" "/:user_id" "delete_user" delete]

end Scriptorium.Api.Users
