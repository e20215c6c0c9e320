import Scriptorium.Database
import Scriptorium.Token.Reading
set_option autoImplicit false

/-!
# Accounts

Who a token stands for: the account whose number is the token's subject.  Everything that is
wrong with a token is answered in the same words.
-/

namespace Scriptorium.Account

/-- The answer to a token that is not accepted. -/
def notValidated : Fault := .refused 401 (.text "Could not validate credentials")

/-- The account of a token (`get_current_user`). -/
def ofToken [Halves] (signer : Token.Signer) (now : Stamp) (accounts : Table) (token : String) :
    Outcome Row := do
  let some claims ← signer.read now token | throw notValidated
  match Fields.get? claims "sub" with
  | none | some .null => throw notValidated
  | some subject =>
    let number ← subject.toWhole
    match accounts.find? fun row => (Row.get row "id").same (.int number) with
    | some row => return row
    | none => throw notValidated

/-- What an account needs for a request. -/
inductive Need where
  | active
  | superuser
  deriving DecidableEq, Repr

/-- An account that has what is needed (`get_current_active_user`, `get_current_active_superuser`).
-/
def require (need : Need) (row : Row) : Outcome Row :=
  match need with
  | .active =>
    if (Row.get row "is_active").truthy then .ok row
    else .error (.refused 400 (.text "Inactive user"))
  | .superuser =>
    if (Row.get row "is_superuser").truthy then .ok row
    else .error (.refused 400 (.text "The user doesn't have enough privileges"))

end Scriptorium.Account
