import Scriptorium.Account
import Scriptorium.Database
import Scriptorium.Fault
set_option autoImplicit false

/-!
# Users

What callers may do with the rows of users.  Everybody may see, change and delete their own
row; only superusers may see, change and delete others.
-/

/-! ## Secrets

The form in which passwords are kept, and the test whether one belongs to a kept form, are
parameters.  Only texts of limited length are passwords.
-/

namespace Scriptorium.Secret

/-- How passwords are kept. -/
structure Scheme where
  /-- The kept form of a password. -/
  hash : String → String
  /-- Whether a password belongs to a kept form. -/
  fits : String → String → Bool

/-- Passwords are kept as they are given. -/
def Scheme.plain : Scheme := ⟨id, (· == ·)⟩

/-- The greatest length of a password. -/
def sizeLimit : Nat := 4096

/-- How the kind of a value is named in complaints about secrets. -/
def kindText (v : Value) : String :=
  match v with
  | .null => "None"
  | v => v.kind.label

/-- The kept form of a password that is one (`get_password_hash`). -/
def keep (scheme : Scheme) (v : Value) : Outcome String :=
  match v with
  | .text s => if sizeLimit < s.length then .error .secretTooLong else .ok (scheme.hash s)
  | v => .error (.notSecret "secret" (kindText v))

/-- Whether a password belongs to a kept form (`verify_password`); nothing kept belongs to none. -/
def belongs (scheme : Scheme) (password : String) (kept : Value) : Outcome Bool :=
  match kept with
  | .null => .ok false
  | .text s =>
    if sizeLimit < password.length then .error .secretTooLong else .ok (scheme.fits password s)
  | v => .error (.notSecret "hash" (kindText v))

end Scriptorium.Secret

/-! ## Rows of users -/

namespace Scriptorium.Users

/-- The name of the table. -/
def table : String := "User"

/-- A test for the row with a number. -/
def isNumber (number : Value) : Row → Bool := Table.holds "id" number

/-- Refuses callers who are no superusers. -/
def requireSuperuser (caller : Row) : Outcome Unit :=
  if (Row.get caller "is_superuser").truthy then .ok ()
  else .error (.refused 403 (.text "Not enough permissions"))

/-- The row with a number (`read_user`). -/
def read (db : Database) (number : Value) : Outcome Row :=
  match db.find? table (isNumber number) with
  | some row => .ok row
  | none => .error (.refused 404 (.text "User not found"))

/-- Changes with the password in its kept form. -/
def withSecret (scheme : Secret.Scheme) (changes : Fields) : Outcome Fields :=
  match Fields.get? changes "password" with
  | none => .ok changes
  | some v => do
    let kept ← Secret.keep scheme v
    return Fields.put (Fields.erase changes "password") "hashed_password" (.text kept)

/-- Changes the row with a number (`update_user`); gives the row as it is then. -/
def update (db : Database) (scheme : Secret.Scheme) (number : Value) (row : Row)
    (changes : Fields) : Outcome (Database × Row) := do
  let changes ← withSecret scheme changes
  return (db.save table (isNumber number) (Fields.merge · changes), Fields.merge row changes)

/-- Deletes the row with a number (`delete_user`). -/
def delete (db : Database) (number : Value) : Database := db.delete table (isNumber number)

/-- Makes a new user (`register_user`, `create_user`).  Rows cannot be made, so that this fails in
one way or another. -/
def register (db : Database) (scheme : Secret.Scheme) (email password : Value) (taken : String) :
    Outcome Row := do
  if (db.find? table (Table.holds "email" email)).isSome then throw (.refused 400 (.text taken))
  discard (Secret.keep scheme password)
  throw (.storage .unmapped)

/-- The token of the user with an address and a password (`login`). -/
def login [Halves] (db : Database) (scheme : Secret.Scheme) (signer : Token.Signer) (now : Stamp)
    (email password : String) : Outcome String := do
  let wrong : Fault := .refused 401 (.text "Incorrect email or password")
  let some row := db.find? table (Table.holds "email" (.text email)) | throw wrong
  if !(← Secret.belongs scheme password (Row.get row "hashed_password")) then throw wrong
  discard (Account.require .active row)
  let life ← Duration.ofMinutes (.int signer.minutes)
  signer.issue now (.text (Row.get row "id").shown) (some life)

end Scriptorium.Users
