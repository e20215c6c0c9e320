import Scriptorium.Proofs.Web.Serving
set_option autoImplicit false

/-!
# Runs of requests

Requests arrive at an application one after the other.  What is kept by every arrival is kept by
every run.  An arrival leads to one of the application's services; if that is an endpoint whose call
is made, the world after it and its answer are those of the call.
-/

namespace Scriptorium.Web

/-- A request and what it meets besides the world. -/
structure Arrival where
  around : Surroundings
  request : Request

namespace Application

variable (app : Application)

/-- Where an arrival leads. -/
def choice (arrival : Arrival) : Choice :=
  choose arrival.request.method (Pattern.stepsOf arrival.request.realPath) app.routes

/-- The world after an arrival. -/
def after [Halves] (arrival : Arrival) (world : World) : World :=
  (app.serve arrival.around arrival.request world).1

/-- The answer to an arrival. -/
def answer [Halves] (arrival : Arrival) (world : World) : Answer :=
  (app.serve arrival.around arrival.request world).2

/-- The world after a run of arrivals. -/
def afterAll [Halves] (arrivals : List Arrival) (world : World) : World :=
  arrivals.foldl (fun world arrival => app.after arrival world) world

/-- Something holds of each arrival and the world that it meets. -/
def Along [Halves] (P : Arrival → World → Prop) : List Arrival → World → Prop
  | [], _ => True
  | arrival :: rest, world => P arrival world ∧ Along P rest (app.after arrival world)

variable {app}

theorem Along.mono [Halves] {P Q : Arrival → World → Prop}
    (h : ∀ arrival world, P arrival world → Q arrival world) {arrivals : List Arrival}
    {world : World} (hall : app.Along P arrivals world) : app.Along Q arrivals world := by
  induction arrivals generalizing world with
  | nil => trivial
  | cons arrival rest ih => exact ⟨h arrival world hall.1, ih hall.2⟩

/-- What every arrival of a run keeps, the run keeps. -/
theorem afterAll_of_along [Halves] {P : Arrival → World → Prop} {I : World → Prop}
    (hstep : ∀ arrival world, P arrival world → I world → I (app.after arrival world))
    {arrivals : List Arrival} {world : World} (halong : app.Along P arrivals world)
    (h : I world) : I (app.afterAll arrivals world) := by
  induction arrivals generalizing world with
  | nil => exact h
  | cons arrival rest ih => exact ih halong.2 (hstep arrival world halong.1 h)

/-- What every arrival keeps, every run keeps. -/
theorem afterAll_of_step [Halves] {I : World → Prop}
    (hstep : ∀ arrival world, I world → I (app.after arrival world))
    (arrivals : List Arrival) {world : World} (h : I world) : I (app.afterAll arrivals world) := by
  induction arrivals generalizing world with
  | nil => exact h
  | cons arrival rest ih => exact ih (hstep arrival world h)

/-! ## Where arrivals lead -/

/-- The service that is chosen is that of one of the routes. -/
theorem mem_of_choose {method : String} {steps : List String} {routes : List Route}
    {service : Service} {captured : List (String × String)}
    (h : choose method steps routes = .found service captured) :
    ∃ route ∈ routes, route.service = service := by
  induction routes with
  | nil => simp [choose] at h
  | cons route rest ih =>
      have hlater : choose method steps rest = .found service captured →
          ∃ other ∈ route :: rest, other.service = service := by
        intro hrest
        obtain ⟨other, hother, hservice⟩ := ih hrest
        exact ⟨other, List.mem_cons_of_mem route hother, hservice⟩
      unfold choose at h
      split at h
      · exact hlater h
      · split at h
        · obtain ⟨rfl, -⟩ := Choice.found.inj h
          exact ⟨route, List.mem_cons_self, rfl⟩
        · split at h
          · cases h
          · exact hlater h

/-- The first route that fits the path and takes the method is chosen. -/
theorem choose_of_getElem? {method : String} {steps : List String} {routes : List Route} {n : Nat}
    {service : Service} {captured : List (String × String)}
    (hservice : routes[n]?.map (·.service) = some service)
    (hbefore : ((routes.take n).all fun route =>
      (route.fit? steps).isNone || !route.takes method) = true)
    (hfit : routes[n]?.bind (·.fit? steps) = some captured)
    (htakes : routes[n]?.map (·.takes method) = some true) :
    choose method steps routes = .found service captured := by
  induction routes generalizing n with
  | nil => cases hservice
  | cons route rest ih =>
      cases n with
      | zero =>
          simp only [List.getElem?_cons_zero, Option.map_some, Option.bind_some,
            Option.some.injEq] at hservice hfit htakes
          simp only [choose, hfit, htakes, hservice, if_true]
      | succ n =>
          simp only [List.getElem?_cons_succ, List.take_succ_cons, List.all_cons,
            Bool.and_eq_true] at hservice hbefore hfit htakes
          have hrest := ih hservice hbefore.2 hfit htakes
          unfold choose
          split
          · exact hrest
          · rename_i captured' hfirst
            have hother : route.takes method = false := by simpa [hfirst] using hbefore.1
            simp [hother, hrest]

/-- An arrival that leads to an endpoint does what its call does. -/
theorem after_of_choice [Halves] {arrival : Arrival} {method : String} {endpoint : Endpoint}
    {captured : List (String × String)}
    (h : app.choice arrival = .found (.endpoint method endpoint) captured) (world : World) :
    app.after arrival world =
      (endpoint.call? captured arrival.around arrival.request world).elim world
        fun call => (endpoint.run call world).1 := by
  rw [after, serve_world arrival.around arrival.request world h, Endpoint.answer_world]

/-- An arrival that leads to no endpoint changes nothing. -/
theorem after_of_no_endpoint [Halves] {arrival : Arrival}
    (h : ∀ method endpoint captured,
      app.choice arrival ≠ .found (.endpoint method endpoint) captured) (world : World) :
    app.after arrival world = world := by
  unfold choice at h
  unfold after serve respond
  cases hchoice : choose arrival.request.method (Pattern.stepsOf arrival.request.realPath)
      app.routes with
  | found service captured =>
      cases service with
      | endpoint method endpoint => exact absurd hchoice (h method endpoint captured)
      | page => rfl
      | socket => rfl
      | folder => rfl
  | wrongMethod => rfl
  | nowhere => rfl

/-- An arrival changes nothing, or leads to an endpoint of one of the routes and does what its call
does. -/
theorem after_cases [Halves] (app : Application) (arrival : Arrival) (world : World) :
    app.after arrival world = world ∨
      ∃ route ∈ app.routes, ∃ method endpoint captured call,
        route.service = .endpoint method endpoint ∧
        app.choice arrival = .found (.endpoint method endpoint) captured ∧
        endpoint.call? captured arrival.around arrival.request world = some call ∧
        app.after arrival world = (endpoint.run call world).1 := by
  by_cases hsome : ∃ method endpoint captured,
      app.choice arrival = .found (.endpoint method endpoint) captured
  · obtain ⟨method, endpoint, captured, hchoice⟩ := hsome
    obtain ⟨route, hroute, hservice⟩ := mem_of_choose hchoice
    have hafter := after_of_choice hchoice world
    cases hcall : endpoint.call? captured arrival.around arrival.request world with
    | none =>
        rw [hcall] at hafter
        exact .inl hafter
    | some call =>
        rw [hcall] at hafter
        exact .inr ⟨route, hroute, method, endpoint, captured, call, hservice, hchoice, hcall,
          hafter⟩
  · refine .inl (after_of_no_endpoint ?_ world)
    intro method endpoint captured hchoice
    exact hsome ⟨method, endpoint, captured, hchoice⟩

/-! ## Answers -/

/-- The answer to an arrival that leads to an endpoint. -/
theorem answer_of_choice [Halves] {arrival : Arrival} {method : String} {endpoint : Endpoint}
    {captured : List (String × String)}
    (h : app.choice arrival = .found (.endpoint method endpoint) captured) (world : World) :
    app.answer arrival world =
      (endpoint.answer app.manner captured arrival.around arrival.request world).2.sent := by
  unfold choice at h
  simp only [answer, serve, respond, h]

end Application

theorem Answer.status_refusal (manner : Manner) (status : Nat) (detail : Value) :
    (refusal manner status detail).status = status := by
  cases manner <;> rfl

/-- What cannot be sent is answered with the status of broken applications. -/
theorem Answer.status_sent [Halves] (a : Answer) :
    a.sent = a ∨ (∃ f, a.body.bind Json.unsendable? = some f) ∧ a.sent.status = 500 := by
  unfold sent
  split
  · rename_i f hf
    exact .inr ⟨⟨f, hf⟩, rfl⟩
  · exact .inl rfl

section Endpoint

variable {endpoint : Endpoint} {captured : List (String × String)} {around : Surroundings}
  {request : Request} {world : World}

theorem Endpoint.around_of_call [Halves] {call : Call}
    (h : endpoint.call? captured around request world = some call) : call.around = around := by
  obtain ⟨payload, taken, -, -, hcall⟩ := Endpoint.of_call?_eq_some h
  rw [hcall]

/-- The answer to a call. -/
theorem Endpoint.answer_of_call [Halves] {call : Call}
    (h : endpoint.call? captured around request world = some call) (manner : Manner) :
    (endpoint.answer manner captured around request world).2 =
      match (endpoint.run call world).2 with
      | .error f => .ofFault manner f
      | .ok result => finish endpoint around.now result := by
  unfold Endpoint.call? at h
  unfold Endpoint.answer
  cases hcontent : contentFor endpoint.body request.content with
  | error e => simp [hcontent, Except.toOption] at h
  | ok payload =>
      cases hcaller : callerOf endpoint.callers around world request with
      | error f => simp [hcontent, hcaller, Except.toOption] at h
      | ok caller =>
          cases hparams : readParams endpoint around.now captured request payload with
          | error findings => simp [hcontent, hcaller, hparams, Except.toOption] at h
          | ok taken =>
              simp only [hcontent, hcaller, hparams, Except.toOption, Option.bind_eq_bind,
                Option.bind_some, Option.pure_def, Option.some.injEq] at h
              subst h
              simp only [hparams]
              generalize endpoint.run _ world = result
              obtain ⟨world', outcome⟩ := result
              cases outcome <;> rfl

/-- Worlds with the same caller give an endpoint the same call. -/
theorem Endpoint.call?_congr [Halves] {world' : World}
    (h : callerOf endpoint.callers around world' request =
      callerOf endpoint.callers around world request) :
    endpoint.call? captured around request world' =
      endpoint.call? captured around request world := by
  unfold Endpoint.call?
  rw [h]

/-- What an endpoint answers depends on the world through its caller and what its call gives. -/
theorem Endpoint.answer_congr [Halves] {world' : World}
    (hcaller : callerOf endpoint.callers around world' request =
      callerOf endpoint.callers around world request)
    (hrun : ∀ call, endpoint.call? captured around request world = some call →
      (endpoint.run call world').2 = (endpoint.run call world).2) (manner : Manner) :
    (endpoint.answer manner captured around request world').2 =
      (endpoint.answer manner captured around request world).2 := by
  cases hcall : endpoint.call? captured around request world with
  | some call =>
      have hcall' := (Endpoint.call?_congr hcaller).trans hcall
      rw [Endpoint.answer_of_call hcall', Endpoint.answer_of_call hcall, hrun call hcall]
  | none =>
      unfold Endpoint.call? at hcall
      unfold Endpoint.answer
      rw [hcaller]
      cases hcontent : contentFor endpoint.body request.content with
      | error e => rfl
      | ok payload =>
          cases haccepted : callerOf endpoint.callers around world request with
          | error f => rfl
          | ok caller =>
              cases hparams : readParams endpoint around.now captured request payload with
              | error findings => simp [hparams]
              | ok taken => simp [hcontent, haccepted, hparams, Except.toOption] at hcall

/-- A request whose content or parameters are at fault is answered so, if everybody may call. -/
theorem Endpoint.status_of_no_call [Halves] (hcallers : endpoint.callers = .everybody)
    (h : endpoint.call? captured around request world = none) (manner : Manner) :
    (endpoint.answer manner captured around request world).2.status ∈ [400, 422] := by
  unfold Endpoint.call? at h
  unfold Endpoint.answer
  have hcaller : callerOf endpoint.callers around world request = .ok [] := by
    rw [hcallers]
    rfl
  cases hcontent : contentFor endpoint.body request.content with
  | error e =>
      cases e with
      | notJson error document => simp [unread, Answer.unprocessable, Answer.status_refusal]
      | unparsable => simp [unread, Answer.status_refusal]
  | ok payload =>
      cases hparams : readParams endpoint around.now captured request payload with
      | error findings => simp [hcaller, hparams, Answer.unprocessable, Answer.status_refusal]
      | ok taken => simp [hcontent, hcaller, hparams, Except.toOption] at h

end Endpoint

/-! ## Two runs -/

namespace Application

variable {app : Application}

/-- What an arrival does in two worlds with the same caller: nothing in both, with the same answer,
or what the same call of the same endpoint does.  Then the answers agree if what the call gives
does. -/
theorem two_runs [Halves] {arrival : Arrival} {world world' : World}
    (hcaller : ∀ method endpoint captured,
      app.choice arrival = .found (.endpoint method endpoint) captured →
      callerOf endpoint.callers arrival.around world' arrival.request =
        callerOf endpoint.callers arrival.around world arrival.request) :
    (app.after arrival world = world ∧ app.after arrival world' = world' ∧
      app.answer arrival world' = app.answer arrival world) ∨
    ∃ method endpoint captured call,
      app.choice arrival = .found (.endpoint method endpoint) captured ∧
      endpoint.call? captured arrival.around arrival.request world = some call ∧
      app.after arrival world = (endpoint.run call world).1 ∧
      app.after arrival world' = (endpoint.run call world').1 ∧
      ((endpoint.run call world').2 = (endpoint.run call world).2 →
        app.answer arrival world' = app.answer arrival world) := by
  by_cases hsome : ∃ method endpoint captured,
      app.choice arrival = .found (.endpoint method endpoint) captured
  · obtain ⟨method, endpoint, captured, hchoice⟩ := hsome
    have hsame := hcaller method endpoint captured hchoice
    have hafter := after_of_choice hchoice world
    have hafter' := after_of_choice hchoice world'
    rw [Endpoint.call?_congr hsame] at hafter'
    have hanswer : (∀ call,
        endpoint.call? captured arrival.around arrival.request world = some call →
        (endpoint.run call world').2 = (endpoint.run call world).2) →
        app.answer arrival world' = app.answer arrival world := by
      intro hrun
      rw [answer_of_choice hchoice, answer_of_choice hchoice,
        Endpoint.answer_congr hsame hrun app.manner]
    cases hcall : endpoint.call? captured arrival.around arrival.request world with
    | none =>
        rw [hcall, Option.elim_none] at hafter hafter'
        refine .inl ⟨hafter, hafter', hanswer ?_⟩
        intro call hmade
        rw [hcall] at hmade
        cases hmade
    | some call =>
        rw [hcall, Option.elim_some] at hafter hafter'
        refine .inr ⟨method, endpoint, captured, call, hchoice, hcall, hafter, hafter', ?_⟩
        intro hrun
        refine hanswer ?_
        intro other hmade
        rw [hcall] at hmade
        rwa [← Option.some.inj hmade]
  · have hno : ∀ method endpoint captured,
        app.choice arrival ≠ .found (.endpoint method endpoint) captured :=
      fun method endpoint captured hchoice => hsome ⟨method, endpoint, captured, hchoice⟩
    refine .inl ⟨after_of_no_endpoint hno world, after_of_no_endpoint hno world', ?_⟩
    unfold choice at hno
    unfold answer serve respond
    cases hchoice : choose arrival.request.method (Pattern.stepsOf arrival.request.realPath)
        app.routes with
    | found service captured =>
        cases service with
        | endpoint method endpoint => exact absurd hchoice (hno method endpoint captured)
        | page => rfl
        | socket => rfl
        | folder => rfl
    | wrongMethod => rfl
    | nowhere => rfl

end Application

end Scriptorium.Web
