import Scriptorium.Proofs.Database
import Scriptorium.Proofs.Number
import Scriptorium.Proofs.Schema.Form
import Scriptorium.Web.Serve
set_option autoImplicit false

/-!
# What serving a request does to the world

Everything that can go wrong before an endpoint runs leaves the world as it is.  `Endpoint.call?` is
the call that an endpoint receives if nothing has gone wrong; the world after a request is the world
after that call.  Callers are rows of the database, and the content of a call has the fields of its
form and no others.
-/

namespace Scriptorium

namespace Account

theorem eq_of_require {need : Need} {row caller : Row} (h : require need row = .ok caller) :
    row = caller := by
  cases need <;> simp only [require] at h <;> split at h <;> simp_all

/-- The row that a token stands for is the first one with the number that the token names. -/
theorem find?_of_ofToken [Halves] {signer : Token.Signer} {now : Stamp} {accounts : Table}
    {token : String} {row : Row} (h : ofToken signer now accounts token = .ok row) :
    ∃ n : Int, accounts.find? (fun row => (Row.get row "id").same (.int n)) = some row := by
  unfold ofToken at h
  cases hread : signer.read now token with
  | error f => simp [hread, bind, Except.bind] at h
  | ok claims? =>
      simp only [hread, bind, Except.bind] at h
      split at h
      · split at h
        · simp [throw, throwThe, MonadExceptOf.throw] at h
        · simp [throw, throwThe, MonadExceptOf.throw] at h
        · split at h
          · simp at h
          · rename_i number _
            split at h
            · rename_i found hfind
              obtain rfl := Except.ok.inj h
              exact ⟨number, hfind⟩
            · simp [throw, throwThe, MonadExceptOf.throw] at h
      · simp [throw, throwThe, MonadExceptOf.throw] at h

end Account

namespace Web

open Schema

/-! ## The call that an endpoint receives -/

/-- The call of an endpoint that a request makes, if its content can be read, its caller is accepted
and its parameters are right. -/
def Endpoint.call? [Halves] (endpoint : Endpoint) (captured : List (String × String))
    (around : Surroundings) (request : Request) (world : World) : Option Call := do
  let payload ← (contentFor endpoint.body request.content).toOption
  let caller ← (callerOf endpoint.callers around world request).toOption
  let taken ← (readParams endpoint around.now captured request payload).toOption
  return ⟨around, taken.args, taken.given, taken.files, caller⟩

section Call

variable (endpoint : Endpoint) (captured : List (String × String)) (around : Surroundings)
  (request : Request) (world : World)

/-- The world after a request is the world after its call. -/
theorem Endpoint.answer_world [Halves] (manner : Manner) :
    (endpoint.answer manner captured around request world).1 =
      (endpoint.call? captured around request world).elim world
        fun call => (endpoint.run call world).1 := by
  unfold Endpoint.answer Endpoint.call?
  cases contentFor endpoint.body request.content with
  | error e => rfl
  | ok payload =>
      cases callerOf endpoint.callers around world request with
      | error f => rfl
      | ok caller =>
          dsimp only [Except.toOption, bind, Option.bind, pure]
          cases readParams endpoint around.now captured request payload with
          | error findings => rfl
          | ok taken =>
              dsimp only [Option.elim]
              generalize endpoint.run _ world = result
              obtain ⟨world', outcome⟩ := result
              cases outcome <;> rfl

/-- A request that leads to an endpoint does what the endpoint does. -/
theorem Application.serve_world [Halves] {app : Application} {method : String} {endpoint : Endpoint}
    {captured : List (String × String)}
    (h : choose request.method (Pattern.stepsOf request.realPath) app.routes =
      .found (.endpoint method endpoint) captured) :
    (app.serve around request world).1 =
      (endpoint.answer app.manner captured around request world).1 := by
  simp only [Application.serve, Application.respond, h]

end Call

section CallParts

variable {endpoint : Endpoint} {captured : List (String × String)} {around : Surroundings}
  {request : Request} {world : World} {call : Call}

/-- What has been read and accepted when an endpoint receives a call. -/
theorem Endpoint.of_call?_eq_some [Halves]
    (h : endpoint.call? captured around request world = some call) :
    ∃ payload taken, callerOf endpoint.callers around world request = .ok call.caller ∧
      readParams endpoint around.now captured request payload = .ok taken ∧
      call = ⟨around, taken.args, taken.given, taken.files, call.caller⟩ := by
  unfold Endpoint.call? at h
  cases hcontent : contentFor endpoint.body request.content with
  | error e => simp [hcontent, Except.toOption] at h
  | ok payload =>
      cases hcaller : callerOf endpoint.callers around world request with
      | error f => simp [hcontent, hcaller, Except.toOption] at h
      | ok caller =>
          cases hparams : readParams endpoint around.now captured request payload with
          | error findings => simp [hcontent, hcaller, hparams, Except.toOption] at h
          | ok taken =>
              simp only [hcontent, hcaller, hparams, Except.toOption, Option.bind_eq_bind,
                Option.bind_some, Option.pure_def, Option.some.injEq] at h
              subst h
              exact ⟨payload, taken, rfl, hparams, rfl⟩

end CallParts

/-! ## Callers -/

/-- The token of a bearer is what the header names. -/
theorem tokenOf_bearer (token : String) : tokenOf (some ("Bearer " ++ token)) = .ok token := by
  have hheader : ("Bearer " ++ token).toList = 'B' :: 'e' :: 'a' :: 'r' :: 'e' :: 'r' :: ' ' ::
      token.toList := by
    rw [String.toList_append]
    rfl
  have hscheme : Text.lowerChars ['B', 'e', 'a', 'r', 'e', 'r'] = "bearer".toList := by decide
  simp [tokenOf, hheader, hscheme]

/-- The bearer of a token calls as the account of the token. -/
theorem callerOf_bearer [Halves] {around : Surroundings} {world : World} {request : Request}
    {token : String} (h : request.authorization = some ("Bearer " ++ token)) :
    callerOf .users around world request =
      Account.ofToken around.signer around.now (world.database.table "User") token := by
  unfold callerOf callerOf.find
  rw [h, tokenOf_bearer]
  rfl

theorem callerOf_activeUsers [Halves] (around : Surroundings) (world : World) (request : Request) :
    callerOf .activeUsers around world request =
      callerOf .users around world request >>= Account.require .active := rfl

/-- The row of an active user is the first one that has the number of the token. -/
theorem find?_of_callerOf [Halves] {around : Surroundings} {world : World} {request : Request}
    {caller : Row} (h : callerOf .activeUsers around world request = .ok caller) :
    ∃ n : Int, (world.database.table "User").find?
      (fun row => (Row.get row "id").same (.int n)) = some caller := by
  unfold callerOf callerOf.find at h
  cases htoken : tokenOf request.authorization with
  | error f => simp [htoken, bind, Except.bind] at h
  | ok token =>
      simp only [htoken, bind, Except.bind] at h
      cases hrow : Account.ofToken around.signer around.now (world.database.table "User") token with
      | error f => simp [hrow] at h
      | ok row =>
          simp only [hrow] at h
          obtain rfl := Account.eq_of_require h
          exact Account.find?_of_ofToken hrow

/-- The caller is the first row that has the caller's number. -/
theorem find?_number_of_callerOf [Halves] {around : Surroundings} {world : World}
    {request : Request}
    {caller : Row} (h : callerOf .activeUsers around world request = .ok caller) :
    (world.database.table "User").find? (Table.holds "id" (Row.get caller "id")) = some caller := by
  obtain ⟨n, hfind⟩ := find?_of_callerOf h
  have hsame : (Row.get caller "id").same (.int n) = true := by simpa using List.find?_some hfind
  have htest : Table.holds "id" (Row.get caller "id") =
      fun row => (Row.get row "id").same (.int n) :=
    funext fun row => Value.same_congr_of_same_int hsame (Row.get row "id")
  rw [htest]
  exact hfind

/-! ## Content -/

theorem join_singleton (read : Read Taken) : join [read] = read := by
  cases read with
  | error findings => rfl
  | ok taken => simp [join]

theorem names_of_checkOne_form [Halves] {now : Stamp} {form : FormName} {place : List Value}
    {v w : Value} (h : checkOne now (.form form) place v = .ok w) :
    ∃ fields, w = .record fields ∧
      Fields.names fields = (Forms.form form).fields.map (·.name) := by
  unfold checkOne at h
  cases hcheck : checkAt Forms.form now (.form form) place v 0 with
  | error findings => simp [hcheck, Functor.map, Except.map] at h
  | ok result =>
      simp only [hcheck, Functor.map, Except.map] at h
      obtain rfl := Except.ok.inj h
      exact names_checkAt_form hcheck

end Web

end Scriptorium
