import Scriptorium.Api
import Scriptorium.Proofs.Web.Arguments
import Scriptorium.Proofs.Web.Run
set_option autoImplicit false

/-!
# Who becomes a superuser

Runs of requests to the routes of users in which no caller is a superuser.  Seven of the eight
endpoints leave the standing of every user alone: they change nothing, take a row away, or are
closed to these callers.  The eighth, by which callers change their own row, writes every field that
its form has, and its form has the privilege.  So users are raised exactly by raising themselves.
-/

namespace Scriptorium.Users

open Web

/-! ## Standing -/

/-- The stored users. -/
def usersOf (world : World) : Table := world.database.table table

/-- Whether a row has the privilege. -/
def isSuperuser (row : Row) : Bool := (Row.get row "is_superuser").truthy

/-- The number and the privilege of a row. -/
def standing (row : Row) : Value × Bool := (Row.get row "id", isSuperuser row)

/-- A stored user had no privilege before and has it after. -/
def Raised (user : Row) (before after : World) : Prop :=
  ∃ front raised rest, usersOf before = front ++ user :: rest ∧
    usersOf after = front ++ raised :: rest ∧ Row.get raised "id" = Row.get user "id" ∧
    isSuperuser user = false ∧ isSuperuser raised = true

/-! ## Requests about users -/

/-- A request leads to no service but those of the routes of users. -/
def ToUsers [Halves] (arrival : Arrival) : Prop :=
  ∀ service captured, Api.office.choice arrival = .found service captured →
    ∃ route ∈ Api.Users.routes, route.service = service

/-- The caller, if there is an accepted one, is no superuser. -/
def Unprivileged [Halves] (arrival : Arrival) (world : World) : Prop :=
  ∀ caller, callerOf .activeUsers arrival.around world arrival.request = .ok caller →
    isSuperuser caller = false

/-- A caller changes their own row. -/
def ChangesSelf [Halves] (arrival : Arrival) (caller : Row) (changes : Fields) (world : World) :
    Prop :=
  ∃ captured call,
    Api.office.choice arrival = .found (.endpoint "PUT" Api.Users.updateMe) captured ∧
    Api.Users.updateMe.call? captured arrival.around arrival.request world = some call ∧
    call.caller = caller ∧ withSecret call.around.secrets (call.changes "user_in") = .ok changes

/-- A caller changes their own row and takes the privilege. -/
def PromotesSelf [Halves] (arrival : Arrival) (caller : Row) (world : World) : Prop :=
  ∃ changes, ChangesSelf arrival caller changes world ∧
    (Row.get changes "is_superuser").truthy = true

/-! ## What the endpoints do to the stored users -/

theorem requireSuperuser_of_not {caller : Row} (h : isSuperuser caller = false) :
    ∃ fault, requireSuperuser caller = .error fault := by
  unfold isSuperuser at h
  simp [requireSuperuser, h]

/-- An endpoint whose act fails changes nothing. -/
theorem changing_of_error {act : Call → World → Outcome (World × Result)} {call : Call}
    {world : World} (h : ∃ fault, act call world = .error fault) :
    (Endpoint.changing act call world).1 = world := by
  obtain ⟨fault, hfault⟩ := h
  simp [Endpoint.changing, hfault]

section Endpoints

variable (call : Call) (world : World)

theorem update_of_not_superuser (h : isSuperuser call.caller = false) :
    (Api.Users.update.run call world).1 = world := by
  obtain ⟨fault, hfault⟩ := requireSuperuser_of_not h
  exact changing_of_error ⟨fault, by simp only [hfault, bind, Except.bind]⟩

theorem delete_of_not_superuser (h : isSuperuser call.caller = false) :
    (Api.Users.delete.run call world).1 = world := by
  obtain ⟨fault, hfault⟩ := requireSuperuser_of_not h
  exact changing_of_error ⟨fault, by simp only [hfault, bind, Except.bind]⟩

theorem usersOf_deleteMe :
    usersOf (Api.Users.deleteMe.run call world).1 =
      (usersOf world).dropFirst (isNumber call.number) :=
  Database.table_delete world.database table (isNumber call.number)

theorem updateMe_of_error {fault : Fault}
    (h : withSecret call.around.secrets (call.changes "user_in") = .error fault) :
    (Api.Users.updateMe.run call world).1 = world :=
  changing_of_error ⟨fault, by simp only [Api.Users.change, update, h, bind, Except.bind]⟩

theorem usersOf_updateMe {changes : Fields}
    (h : withSecret call.around.secrets (call.changes "user_in") = .ok changes) :
    usersOf (Api.Users.updateMe.run call world).1 =
      (usersOf world).changeFirst (isNumber call.number) (Fields.merge · changes) := by
  have hrun : (Api.Users.updateMe.run call world).1.database =
      world.database.save table (isNumber call.number) (Fields.merge · changes) := by
    simp [Api.Users.updateMe, Endpoint.changing, Api.Users.change, update, h, bind, Except.bind,
      pure, Except.pure]
  rw [usersOf, hrun]
  exact Database.table_save world.database table _ _

/-- A call without privileges of an endpoint of users takes rows away, at most, or changes the
caller's own row. -/
theorem usersOf_run {route : Route} {method : String} {endpoint : Endpoint}
    (hroute : route ∈ Api.Users.routes) (hservice : route.service = .endpoint method endpoint)
    (hcaller : endpoint.callers = .activeUsers → isSuperuser call.caller = false) :
    (usersOf (endpoint.run call world).1).Sublist (usersOf world) ∨
      method = "PUT" ∧ endpoint = Api.Users.updateMe ∧
        ∃ changes, withSecret call.around.secrets (call.changes "user_in") = .ok changes := by
  have hsame {after : World} (h : after = world) : (usersOf after).Sublist (usersOf world) :=
    h ▸ List.Sublist.refl _
  -- In the order of the routes: only changing and deleting oneself touch the table.
  simp only [Api.Users.routes, List.mem_cons, List.not_mem_nil, or_false] at hroute
  rcases hroute with rfl | rfl | rfl | rfl | rfl | rfl | rfl | rfl <;>
    obtain ⟨rfl, rfl⟩ := Service.endpoint.inj hservice
  · exact .inl (hsame rfl)
  · exact .inl (hsame rfl)
  · exact .inl (hsame rfl)
  · cases hsecret : withSecret call.around.secrets (call.changes "user_in") with
    | error fault => exact .inl (hsame (updateMe_of_error call world hsecret))
    | ok changes => exact .inr ⟨rfl, rfl, changes, rfl⟩
  · rw [usersOf_deleteMe call world]
    exact .inl (Table.dropFirst_sublist _ _)
  · exact .inl (hsame rfl)
  · exact .inl (hsame (update_of_not_superuser call world (hcaller rfl)))
  · exact .inl (hsame (delete_of_not_superuser call world (hcaller rfl)))

end Endpoints

/-! ## Changes of the own row -/

/-- The names that callers may give to change their own row. -/
def ownNames : List String := (Forms.form .userUpdate).fields.map (·.name)

/-- Keeping a password in place of giving it gives no name twice and does not give a number. -/
theorem names_withSecret {scheme : Secret.Scheme} {given changes : Fields}
    (h : withSecret scheme given = .ok changes)
    (hnames : (Fields.names given).Sublist ownNames) :
    (Fields.names changes).Nodup ∧ "id" ∉ Fields.names changes := by
  have hnodup : (Fields.names given).Nodup := hnames.nodup (by decide)
  have hid : "id" ∉ Fields.names given := fun hmem => absurd (hnames.subset hmem) (by decide)
  unfold withSecret at h
  split at h
  · obtain rfl := Except.ok.inj h
    exact ⟨hnodup, hid⟩
  · rename_i v _
    cases hkeep : Secret.keep scheme v with
    | error fault => simp [hkeep, bind, Except.bind] at h
    | ok kept =>
        simp only [hkeep, bind, Except.bind, pure, Except.pure] at h
        obtain rfl := Except.ok.inj h
        have herased : (Fields.names (Fields.erase given "password")).Sublist
            (Fields.names given) := by
          rw [Fields.names_erase]
          exact List.filter_sublist
        refine ⟨Fields.nodup_names_put (herased.nodup hnodup) _ _, ?_⟩
        rw [Fields.mem_names_put]
        rintro (heq | hmem)
        · exact absurd heq (by decide)
        · exact hid (herased.subset hmem)

section Change

variable {arrival : Arrival} {caller : Row} {changes : Fields} {world : World}

theorem ChangesSelf.names [Halves] (h : ChangesSelf arrival caller changes world) :
    (Fields.names changes).Nodup ∧ "id" ∉ Fields.names changes := by
  obtain ⟨captured, call, -, hcall, -, hsecret⟩ := h
  exact names_withSecret hsecret (Endpoint.names_changes_sublist hcall rfl (by decide))

theorem ChangesSelf.callerOf_eq [Halves] (h : ChangesSelf arrival caller changes world) :
    callerOf .activeUsers arrival.around world arrival.request = .ok caller := by
  obtain ⟨captured, call, -, hcall, rfl, -⟩ := h
  obtain ⟨payload, taken, hcaller, -, -⟩ := Endpoint.of_call?_eq_some hcall
  exact hcaller

/-- A change of the own row keeps the number. -/
theorem ChangesSelf.get_id [Halves] (h : ChangesSelf arrival caller changes world) :
    Row.get (Fields.merge caller changes) "id" = Row.get caller "id" :=
  Row.get_merge_of_not_mem caller h.names.2

/-- Whoever has no privilege has, after a change of the own row, the one that the change gives. -/
theorem ChangesSelf.isSuperuser_merge [Halves] (h : ChangesSelf arrival caller changes world)
    (hcaller : isSuperuser caller = false) :
    isSuperuser (Fields.merge caller changes) = (Row.get changes "is_superuser").truthy := by
  rw [isSuperuser, Row.get_merge h.names.1]
  cases hgiven : Fields.get? changes "is_superuser" with
  | none =>
      rw [Row.get, hgiven]
      exact hcaller
  | some v =>
      rw [Row.get, hgiven]
      rfl

/-- The row that is changed is the caller's, where it stands. -/
theorem ChangesSelf.usersOf_after [Halves] (h : ChangesSelf arrival caller changes world) :
    ∃ front rest, usersOf world = front ++ caller :: rest ∧
      usersOf (Api.office.after arrival world) = front ++ Fields.merge caller changes :: rest := by
  have hfind := find?_number_of_callerOf h.callerOf_eq
  obtain ⟨captured, call, hchoice, hcall, rfl, hsecret⟩ := h
  obtain ⟨front, rest, hbefore, -, hafter⟩ := Table.split_of_find? hfind
  refine ⟨front, rest, hbefore, ?_⟩
  rw [Application.after_of_choice hchoice, hcall]
  exact (usersOf_updateMe call world hsecret).trans (hafter (Fields.merge · changes))

/-! ## One request -/

/-- A request without privileges takes rows of users away, at most, or changes the caller's own. -/
theorem after_cases [Halves] (hto : ToUsers arrival) (hun : Unprivileged arrival world) :
    (usersOf (Api.office.after arrival world)).Sublist (usersOf world) ∨
      ∃ caller changes, ChangesSelf arrival caller changes world := by
  rcases Application.after_cases Api.office arrival world with
    hsame | ⟨-, -, method, endpoint, captured, call, -, hchoice, hcall, hafter⟩
  · rw [hsame]
    exact .inl (List.Sublist.refl _)
  · obtain ⟨route, hroute, hservice⟩ := hto _ _ hchoice
    obtain ⟨payload, taken, hcaller, -, -⟩ := Endpoint.of_call?_eq_some hcall
    have hrun := usersOf_run call world hroute hservice
      (fun hactive => hun call.caller (hactive ▸ hcaller))
    rw [hafter]
    rcases hrun with hless | ⟨rfl, rfl, changes, hsecret⟩
    · exact .inl hless
    · exact .inr ⟨call.caller, changes, captured, call, hchoice, hcall, rfl, hsecret⟩

end Change

/-! ## Who is raised -/

/-- Nobody is raised where the standings are those from before, some left out. -/
theorem not_raised_of_sublist {user : Row} {before after : World}
    (h : ((usersOf after).map standing).Sublist ((usersOf before).map standing)) :
    ¬Raised user before after := by
  rintro ⟨front, raised, rest, hbefore, hafter, -, hnot, hnow⟩
  have hlength : ((usersOf after).map standing).length =
      ((usersOf before).map standing).length := by
    simp [hbefore, hafter]
  have heq := h.eq_of_length hlength
  simp [hbefore, hafter, standing, hnot, hnow] at heq

/-- Two ways to tell which item of a list was changed agree. -/
theorem eq_of_changed {α : Type} {front front' rest rest' : List α} {x x' y y' : α}
    (hbefore : front ++ x :: rest = front' ++ y :: rest')
    (hafter : front ++ x' :: rest = front' ++ y' :: rest') (hne : x ≠ x') :
    x = y ∧ x' = y' := by
  have hplace : front.length = front'.length := by
    -- At any other place the lists before and after agree.
    refine Classical.byContradiction fun hother => hne ?_
    have hx : (front ++ x :: rest)[front.length]? = some x := by simp
    have hx' : (front ++ x' :: rest)[front.length]? = some x' := by simp
    rw [hbefore] at hx
    rw [hafter] at hx'
    have hsame : (front' ++ y :: rest')[front.length]? =
        (front' ++ y' :: rest')[front.length]? := by
      grind
    rw [hx, hx'] at hsame
    exact Option.some.inj hsame
  obtain ⟨-, hxs⟩ := List.append_inj hbefore hplace
  obtain ⟨-, hxs'⟩ := List.append_inj hafter hplace
  exact ⟨(List.cons.inj hxs).1, (List.cons.inj hxs').1⟩

section Raising

variable {arrival : Arrival} {user : Row} {world : World}

/-- Exactly those who take the privilege for themselves are raised. -/
theorem raised_iff [Halves] (hto : ToUsers arrival) (hun : Unprivileged arrival world) :
    Raised user world (Api.office.after arrival world) ↔ PromotesSelf arrival user world := by
  constructor
  · intro hraised
    rcases after_cases hto hun with hless | ⟨caller, changes, hself⟩
    · exact absurd hraised (not_raised_of_sublist (hless.map standing))
    · obtain ⟨front, raised, rest, hbefore, hafter, -, hnot, hnow⟩ := hraised
      obtain ⟨front', rest', hbefore', hafter'⟩ := hself.usersOf_after
      have hne : user ≠ raised := by
        rintro rfl
        simp [hnot] at hnow
      obtain ⟨rfl, rfl⟩ :=
        eq_of_changed (hbefore.symm.trans hbefore') (hafter.symm.trans hafter') hne
      exact ⟨changes, hself, (hself.isSuperuser_merge hnot).symm.trans hnow⟩
  · rintro ⟨changes, hself, htrue⟩
    obtain ⟨front, rest, hbefore, hafter⟩ := hself.usersOf_after
    have hnot := hun user hself.callerOf_eq
    exact ⟨front, Fields.merge user changes, rest, hbefore, hafter, hself.get_id, hnot,
      (hself.isSuperuser_merge hnot).trans htrue⟩

/-- If nobody takes the privilege, standings are at most lost. -/
theorem standings_after_sublist [Halves] (hto : ToUsers arrival) (hun : Unprivileged arrival world)
    (hnobody : ∀ user, ¬PromotesSelf arrival user world) :
    ((usersOf (Api.office.after arrival world)).map standing).Sublist
      ((usersOf world).map standing) := by
  rcases after_cases hto hun with hless | ⟨caller, changes, hself⟩
  · exact hless.map standing
  · obtain ⟨front, rest, hbefore, hafter⟩ := hself.usersOf_after
    have hnot := hun caller hself.callerOf_eq
    have hkept : isSuperuser (Fields.merge caller changes) = false := by
      rw [hself.isSuperuser_merge hnot]
      exact Bool.eq_false_iff.mpr fun htrue => hnobody caller ⟨changes, hself, htrue⟩
    have hstanding : standing (Fields.merge caller changes) = standing caller := by
      rw [standing, standing, hself.get_id, hkept, hnot]
    have hsame : (usersOf (Api.office.after arrival world)).map standing =
        (usersOf world).map standing := by
      rw [hbefore, hafter, List.map_append, List.map_append, List.map_cons, List.map_cons,
        hstanding]
    simp only [hsame, List.Sublist.refl]

end Raising

/-- In a run of requests to users by callers without privileges, a stored user is raised exactly by
a request in which that very user takes the privilege by changing the own row; if nobody does so,
the users after the run are users from before it with the same numbers and standings. -/
theorem raised_iff_promotes_self [Halves] {arrivals : List Arrival} {world : World}
    (h : Api.office.Along (fun arrival world => ToUsers arrival ∧ Unprivileged arrival world)
      arrivals world) :
    Api.office.Along (fun arrival world => ∀ user,
      Raised user world (Api.office.after arrival world) ↔ PromotesSelf arrival user world)
      arrivals world ∧
    (Api.office.Along (fun arrival world => ∀ user, ¬PromotesSelf arrival user world)
        arrivals world →
      ((usersOf (Api.office.afterAll arrivals world)).map standing).Sublist
        ((usersOf world).map standing)) := by
  refine ⟨h.mono fun arrival world harrival user => raised_iff harrival.1 harrival.2, ?_⟩
  intro hnobody
  induction arrivals generalizing world with
  | nil => exact List.Sublist.refl _
  | cons arrival rest ih =>
      obtain ⟨⟨hto, hun⟩, hrest⟩ := h
      obtain ⟨hnobody, hnobodyRest⟩ := hnobody
      rw [Application.afterAll, List.foldl_cons]
      exact (ih hrest hnobodyRest).trans (standings_after_sublist hto hun hnobody)

/-! ### A user who takes the privilege -/

/-- An ordinary user. -/
def ann : Row :=
  [("id", .int 1), ("email", .text "ann@example.com"), ("full_name", .text "Ann"),
    ("is_active", .bool true), ("is_superuser", .bool false), ("hashed_password", .text "x")]

/-- A world with one user, who is no superuser. -/
def annAlone : World where
  library := .start ⟨0, none⟩
  database := { tables := [(table, [ann])] }
  health := ⟨none, "test", 0⟩

section

open scoped Halves.Plain

/-- A request with a token for the user 1, who asks for the privilege. -/
def annPromotesSelf : Arrival :=
  let signer : Token.Signer := { secret := "s" }
  let token := ((signer.issue ⟨0, none⟩ (.text "1") none).toOption).getD ""
  { around :=
      { now := ⟨0, none⟩, signer, reply := .unreachable, marks := [], similarities := [],
        documentation := { now := ⟨0, none⟩ } }
    request :=
      { method := "PUT", path := "/api/v1/users/me",
        content := .json (.record [("is_superuser", .bool true)]),
        authorization := some ("Bearer " ++ token) } }

set_option maxRecDepth 10000 in
theorem annPromotesSelf_toUsers : ToUsers annPromotesSelf := by
  intro service captured hchoice
  have hfound : Api.office.choice annPromotesSelf =
      .found (.endpoint "PUT" Api.Users.updateMe) [] := by
    with_unfolding_all rfl
  rw [hfound] at hchoice
  obtain ⟨rfl, -⟩ := Choice.found.inj hchoice
  exact ⟨.lead "PUT" "/me" "update_user_me" Api.Users.updateMe, by simp [Api.Users.routes], rfl⟩

theorem annPromotesSelf_unprivileged : Unprivileged annPromotesSelf annAlone := by
  intro caller hcaller
  obtain ⟨n, hfind⟩ := find?_of_callerOf hcaller
  have hann : caller = ann := by
    simpa [annAlone, Database.table, Fields.get?, table] using List.mem_of_find?_eq_some hfind
  rw [hann]
  rfl

set_option maxRecDepth 100000 in
theorem standings_after_annPromotesSelf :
    (usersOf (Api.office.after annPromotesSelf annAlone)).map
      (fun row => ((Row.get row "id").int?, isSuperuser row)) = [(some 1, true)] := by
  decide +kernel

theorem annPromotesSelf_along :
    Api.office.Along (fun arrival world => ToUsers arrival ∧ Unprivileged arrival world)
      [annPromotesSelf] annAlone :=
  ⟨⟨annPromotesSelf_toUsers, annPromotesSelf_unprivileged⟩, trivial⟩

theorem raised_annPromotesSelf :
    Raised ann annAlone (Api.office.after annPromotesSelf annAlone) := by
  obtain ⟨raised, rest, hafter, hfirst, hrest⟩ :=
    List.map_eq_cons_iff.mp standings_after_annPromotesSelf
  obtain rfl := List.map_eq_nil_iff.mp hrest
  obtain ⟨hid, hnow⟩ := Prod.mk.inj hfirst
  refine ⟨[], raised, [], rfl, hafter, ?_, rfl, hnow⟩
  unfold Value.int? at hid
  split at hid
  · rename_i n hn
    obtain rfl := Option.some.inj hid
    exact hn
  · cases hid

/-- The user's own request is found to be what raises the user. -/
theorem ann_raised_by_own_change :
    Api.office.Along (fun arrival world => ToUsers arrival ∧ Unprivileged arrival world)
      [annPromotesSelf] annAlone ∧ PromotesSelf annPromotesSelf ann annAlone :=
  ⟨annPromotesSelf_along,
    ((raised_iff_promotes_self annPromotesSelf_along).1.1 ann).mp raised_annPromotesSelf⟩

/-- A run without privileged callers after which the user is a superuser. -/
theorem ann_becomes_superuser :
    Api.office.Along (fun arrival world => ToUsers arrival ∧ Unprivileged arrival world)
      [annPromotesSelf] annAlone ∧
    Raised ann annAlone (Api.office.afterAll [annPromotesSelf] annAlone) := by
  refine ⟨annPromotesSelf_along, ?_⟩
  rw [Application.afterAll, List.foldl_cons, List.foldl_nil]
  exact raised_annPromotesSelf

end

end Scriptorium.Users
