import Scriptorium.Proofs.Database
import Scriptorium.Proofs.Sheets
import Scriptorium.Proofs.Web.Sending
import Scriptorium.Storage.Plan
set_option autoImplicit false

/-!
# New collaborators

Whoever may not choose the collaborators of a sheet, or names a sheet or a user who is not there, is
refused before anything is changed.  Otherwise the change is made and saved, and only then is the
answer written, which gives the name of the new collaborator.  A name that is not there or cannot be
sent breaks the request, but the user is a collaborator by then.
-/

namespace Scriptorium

/-- A test of rows that fails does so at one of them. -/
theorem Outcome.anyM_eq_error {α : Type} {test : α → Outcome Bool} {xs : List α} {f : Fault}
    (h : xs.anyM test = .error f) : ∃ x ∈ xs, test x = .error f := by
  induction xs with
  | nil => cases h
  | cons x rest ih =>
      rw [List.anyM_cons] at h
      rcases bind_eq_error_iff.mp h with hx | ⟨found, -, hrest⟩
      · exact ⟨x, List.mem_cons_self, hx⟩
      · cases found with
        | true => cases hrest
        | false =>
            obtain ⟨y, hy, hfault⟩ := ih hrest
            exact ⟨y, List.mem_cons_of_mem x hy, hfault⟩

/-- A row that is still accepted after its change is found again. -/
theorem Table.find?_changeFirst {test : Row → Bool} {change : Row → Row} {rows : Table} {row : Row}
    (h : rows.find? test = some row) (hchange : test (change row) = true) :
    (changeFirst test change rows).find? test = some (change row) := by
  induction rows with
  | nil => cases h
  | cons head tail ih =>
      unfold changeFirst
      cases hhead : test head with
      | true =>
          rw [List.find?_cons_of_pos hhead] at h
          obtain rfl := Option.some.inj h
          simp [hchange]
      | false =>
          rw [List.find?_cons_of_neg (by simp [hhead])] at h
          simp [hhead, ih h]

namespace Sheets

open Web

variable {db : Database} {id user : Value} {caller found row : Row} {f : Fault}

/-! ## Whom a caller may add -/

/-- What keeps a caller from adding a collaborator.  The last fault is met where a caller's row does
not give the level that decides. -/
def obstacles : List Fault :=
  [notFound "Document", notAuthorized "manage collaborators", notFound "User",
    .noMember "Row" "permission_level"]

theorem status_obstacles [Halves] : ∀ f ∈ obstacles,
    (Answer.ofFault Api.desk.manner f).sent.status ∈ [403, 404, 500] := by
  intro f hf
  simp only [obstacles, List.mem_cons, List.not_mem_nil, or_false] at hf
  rcases hf with rfl | rfl | rfl | rfl
  · rw [notFound, status_sent_refused _ (by decide +kernel)]
    decide
  · rw [notAuthorized, status_sent_refused _ (by decide +kernel)]
    decide
  · rw [notFound, status_sent_refused _ (by decide +kernel)]
    decide
  · exact List.mem_cons_of_mem _ (List.mem_cons_of_mem _ List.mem_cons_self)

theorem fault_of_ofUser {name : String} (h : ofUser row name = .error f) :
    f = .noMember "Row" name := by
  unfold ofUser at h
  split at h
  · cases h
  · exact (Except.error.inj h).symm

theorem fault_of_mayManage (h : mayManage db found caller = .error f) :
    f = .noMember "Row" "permission_level" := by
  simp only [mayManage] at h
  split at h
  · cases h
  · obtain ⟨row, -, hrow⟩ := Outcome.anyM_eq_error h
    unfold isAdministrator at hrow
    cases hrank : ofUser row "permission_level" with
    | ok rank => rw [hrank] at hrow; cases hrow
    | error fault =>
        rw [hrank] at hrow
        obtain rfl := Except.error.inj hrow
        exact fault_of_ofUser hrank

theorem find?_of_sheet (h : sheet db id = .ok found) :
    db.find? table (Table.holds "id" id) = some found := by
  unfold sheet at h
  split at h
  · rename_i hfind
    rwa [Except.ok.inj h] at hfind
  · cases h

theorem fault_of_sheet (h : sheet db id = .error f) : f = notFound "Document" := by
  unfold sheet at h
  split at h
  · cases h
  · exact (Except.error.inj h).symm

/-- A caller meets an obstacle, or the sheet is there and the user who is accepted is the one with
the identifier. -/
theorem candidate_cases (db : Database) (id user : Value) (caller : Row) :
    (∃ f ∈ obstacles, candidate db id user caller = .error f) ∨
      ∃ found row, candidate db id user caller = .ok row ∧ sheet db id = .ok found ∧
        db.find? "User" (Table.holds "id" user) = some row := by
  unfold candidate
  cases hsheet : sheet db id with
  | error f => exact .inl ⟨f, by simp [obstacles, fault_of_sheet hsheet], rfl⟩
  | ok found =>
      simp only [bind, Except.bind]
      cases hmay : mayManage db found caller with
      | error f => exact .inl ⟨f, by simp [obstacles, fault_of_mayManage hmay], rfl⟩
      | ok may =>
          cases may with
          | false => exact .inl ⟨_, by simp [obstacles], rfl⟩
          | true =>
              cases huser : db.find? "User" (Table.holds "id" user) with
              | none => exact .inl ⟨_, by simp [obstacles], rfl⟩
              | some row => exact .inr ⟨found, row, rfl, rfl, rfl⟩

/-! ## What is changed -/

theorem get_id_withCollaborator (number : Value) (found : Row) :
    Row.get (withCollaborator number found) "id" = Row.get found "id" := by
  simp only [withCollaborator]
  split
  · rfl
  · simp only [Row.get]
    rw [Fields.get?_put_of_ne _ _ (by decide)]

/-- Which sheets there are, and who works on them. -/
def rosters (db : Database) : List (Value × List Value) :=
  (db.table table).map fun found => (Row.get found "id", collaborators found)

/-- A user is among the collaborators of a sheet. -/
def IsAmong (db : Database) (id user : Value) : Prop :=
  ∃ found, sheet db id = .ok found ∧ user ∈ collaborators found

theorem isAmong_iff (h : sheet db id = .ok found) :
    IsAmong db id user ↔ user ∈ collaborators found := by
  constructor
  · rintro ⟨other, hother, hmem⟩
    rw [h] at hother
    rwa [Except.ok.inj hother]
  · exact fun hmem => ⟨found, h, hmem⟩

section Change

variable {s : String}

theorem any_same_text_iff (values : List Value) :
    values.any (·.same (.text s)) = true ↔ .text s ∈ values := by
  simp [List.any_eq_true, Value.same_text_iff]

theorem withCollaborator_of_mem (h : .text s ∈ collaborators found) :
    withCollaborator (.text s) found = found := by
  unfold withCollaborator
  exact if_pos ((any_same_text_iff _).mpr h)

theorem collaborators_withCollaborator (h : .text s ∉ collaborators found) :
    collaborators (withCollaborator (.text s) found) = collaborators found ++ [.text s] := by
  unfold withCollaborator
  rw [if_neg (mt (any_same_text_iff _).mp h)]
  simp only [collaborators, Row.get, Fields.get?_put_self, Option.getD_some, Value.list?]

theorem mem_collaborators_withCollaborator (s : String) (found : Row) :
    .text s ∈ collaborators (withCollaborator (.text s) found) := by
  by_cases h : .text s ∈ collaborators found
  · rwa [withCollaborator_of_mem h]
  · simp [collaborators_withCollaborator h]

/-- A caller who is accepted makes the user a collaborator of the sheet.  The collaborators of all
sheets are as before only if the user has been one. -/
theorem change_of_candidate (h : candidate db id (.text s) caller = .ok row) :
    IsAmong (addCollaborator db id (.text s) caller).1 id (.text s) ∧
      (rosters (addCollaborator db id (.text s) caller).1 = rosters db ↔
        IsAmong db id (.text s)) := by
  rcases candidate_cases db id (.text s) caller with
    ⟨f, -, hfault⟩ | ⟨found, other, hother, hsheet, huser⟩
  · rw [hfault] at h
    cases h
  rw [h] at hother
  obtain rfl := Except.ok.inj hother
  have hid : Row.get row "id" = .text s := Table.holds_text_iff.mp (List.find?_some huser)
  have hafter : (addCollaborator db id (.text s) caller).1.table table =
      (db.table table).changeFirst (Table.holds "id" id) (withCollaborator (.text s)) := by
    simp [addCollaborator, h, hid]
  have hfind := find?_of_sheet hsheet
  have hheld : Table.holds "id" id found = true := List.find?_some hfind
  have hkept : Table.holds "id" id (withCollaborator (.text s) found) = true := by
    rwa [Table.holds, get_id_withCollaborator]
  have hsheet' : sheet (addCollaborator db id (.text s) caller).1 id =
      .ok (withCollaborator (.text s) found) := by
    unfold sheet Database.find?
    rw [hafter, Table.find?_changeFirst hfind hkept]
  refine ⟨⟨_, hsheet', mem_collaborators_withCollaborator s found⟩, ?_⟩
  obtain ⟨front, rest, hrows, -, hchanged⟩ := Table.split_of_find? hfind
  rw [isAmong_iff hsheet, rosters, rosters, hafter, hchanged, hrows]
  by_cases hmem : .text s ∈ collaborators found
  · simp [withCollaborator_of_mem hmem, hmem]
  · simp [collaborators_withCollaborator hmem, hmem]

theorem addCollaborator_of_obstacle (h : candidate db id user caller = .error f) :
    addCollaborator db id user caller = (db, .error f) := by
  simp only [addCollaborator, h]

theorem name_of_candidate (h : candidate db id user caller = .ok row) :
    (addCollaborator db id user caller).2 = ofUser row "username" := by
  simp only [addCollaborator, h]

end Change

/-! ## What is answered -/

/-- The words in which a new collaborator is announced. -/
def announcement [Halves] (name : Value) : Value :=
  .record [("message", .text s!"Added {name.shown} as a collaborator")]

/-- A name can be sent. -/
def IsSendable [Halves] (name : Value) : Prop := ∀ c ∈ name.shown.toList, Text.Half.isHalf c = false

/-- A user's row gives a name that can be sent. -/
def IsAnnounceable [Halves] (row : Row) : Prop :=
  ∃ name, ofUser row "username" = .ok name ∧ IsSendable name

theorem unsendable?_announcement_iff [Halves] (name : Value) :
    Json.unsendable? (announcement name) = none ↔ IsSendable name := by
  have hfront : Text.IsAscii "Added ".toList := by decide
  have hback : Text.IsAscii " as a collaborator".toList := by decide
  have hmessage : ["message"].all Json.isSendableName = true := by decide +kernel
  have hnames : ∀ v : Value, (Fields.names [("message", v)]).all Json.isSendableName = true :=
    fun _ => hmessage
  have htext : s!"Added {name.shown} as a collaborator" =
      "Added " ++ name.shown ++ " as a collaborator" := rfl
  rw [announcement, Json.unsendable?_record_of_names (hnames _), List.forall_mem_singleton,
    Json.unsendable?_text_eq_none_iff, htext, String.toList_append, String.toList_append,
    List.forall_mem_append, List.forall_mem_append, and_iff_right hfront.isHalf_eq_false,
    and_iff_left hback.isHalf_eq_false,
    IsSendable]

theorem finish_announcement [Halves] (now : Stamp) (name : Value) :
    finish Api.Sheets.addCollaborator now (.value (announcement name)) =
      { status := 200, body := some (announcement name) } := rfl

/-- Rows of users have no other columns than the table of users. -/
def IsStorable (row : Row) : Prop :=
  Fields.names row ⊆ Storage.users.form.columns.map (·.name)

/-- Users who are stored cannot be announced, for they have no name of that kind. -/
theorem not_isAnnounceable_of_isStorable [Halves] (h : IsStorable row) : ¬IsAnnounceable row := by
  have hno : "username" ∉ Storage.users.form.columns.map (·.name) := by decide
  rintro ⟨name, hname, -⟩
  refine hno (h ((Fields.mem_names_iff row "username").mpr ⟨name, ?_⟩))
  unfold ofUser at hname
  split at hname
  · rename_i v hv
    rwa [← Except.ok.inj hname]
  · cases hname

/-- A new collaborator is announced if the name can be sent. -/
theorem status_announced [Halves] (now : Stamp) (name : Value) :
    (IsSendable name ∧
      (finish Api.Sheets.addCollaborator now (.value (announcement name))).sent.status = 200) ∨
    (¬IsSendable name ∧
      (finish Api.Sheets.addCollaborator now (.value (announcement name))).sent.status = 500) := by
  rw [finish_announcement, ← unsendable?_announcement_iff]
  unfold Answer.sent
  cases hsend : Json.unsendable? (announcement name) with
  | none => exact .inl ⟨rfl, by simp [hsend]⟩
  | some f => exact .inr ⟨Option.some_ne_none f, by simp [hsend, Answer.broken]⟩

theorem addCollaborator_run [Halves] (call : Call) (world : World) :
    Api.Sheets.addCollaborator.run call world =
      ({ world with database := (addCollaborator world.database (call.arg "document_id")
          (call.arg "user_id") call.caller).1 },
        (fun name => .value (announcement name)) <$> (addCollaborator world.database
          (call.arg "document_id") (call.arg "user_id") call.caller).2) := rfl

section Arrival

variable {arrival : Arrival} {method : String} {captured : List (String × String)} {call : Call}
  {world : World}

theorem user_text [Halves]
    (hcall : Api.Sheets.addCollaborator.call? captured arrival.around arrival.request world =
      some call) : ∃ s, call.arg "user_id" = .text s := by
  have hnames : ((Api.Sheets.addCollaborator.path ++ Api.Sheets.addCollaborator.query).map
      (·.name)).Nodup := by
    simp [Api.Sheets.addCollaborator, Api.Sheets.ident, Schema.Slot.required,
      Schema.Slot.defaulted]
  have hfits : Schema.Fits Forms.form Forms.anyText (call.arg "user_id") :=
    Endpoint.fits_arg hcall hnames (.required "user_id" Forms.anyText)
      (List.mem_cons_of_mem _ List.mem_cons_self) rfl
  exact hfits.eq_text

/-- The user whom a call asks to add, if the caller may. -/
def accepted (call : Call) (db : Database) : Outcome Row :=
  candidate db (call.arg "document_id") (call.arg "user_id") call.caller

/-- The user whom a call asks to add is among the collaborators of the sheet. -/
def IsAdded (call : Call) (db : Database) : Prop :=
  IsAmong db (call.arg "document_id") (call.arg "user_id")

/-- A call to add a collaborator is settled: it succeeds, and the user is among the collaborators of
the sheet afterwards, or it fails, and the collaborators of every sheet are as before. -/
def IsSettled (call : Call) (before : Database) (answer : Answer) (after : Database) : Prop :=
  (answer.status = 200 ∧ IsAdded call after) ∨
    (answer.status ≠ 200 ∧ rosters after = rosters before)

variable [Halves]
  (hchoice : Api.desk.choice arrival =
    .found (.endpoint method Api.Sheets.addCollaborator) captured)
  (hcall : Api.Sheets.addCollaborator.call? captured arrival.around arrival.request world =
    some call)
include hchoice hcall

theorem database_after : (Api.desk.after arrival world).database =
    (addCollaborator world.database (call.arg "document_id") (call.arg "user_id")
      call.caller).1 := by
  rw [Application.after_of_choice hchoice, hcall, Option.elim_some, addCollaborator_run]

/-- A request that meets an obstacle is answered so and changes nothing. -/
theorem refused_of_obstacle (h : accepted call world.database = .error f) (hf : f ∈ obstacles) :
    (Api.desk.answer arrival world).status ∈ [403, 404, 500] ∧
      (Api.desk.after arrival world).database = world.database := by
  constructor
  · rw [Application.answer_of_choice hchoice, Endpoint.answer_of_call hcall, addCollaborator_run,
      addCollaborator_of_obstacle h]
    exact status_obstacles f hf
  · rw [database_after hchoice hcall, addCollaborator_of_obstacle h]

/-- A request for a user who is accepted adds the user, whatever is answered. -/
theorem added_of_accepted (h : accepted call world.database = .ok row) :
    IsAdded call (Api.desk.after arrival world).database ∧
      (rosters (Api.desk.after arrival world).database = rosters world.database ↔
        IsAdded call world.database) := by
  obtain ⟨s, hs⟩ := user_text hcall
  rw [accepted, hs] at h
  rw [database_after hchoice hcall, IsAdded, IsAdded, hs]
  exact change_of_candidate h

/-- The answer to such a request. -/
theorem status_of_accepted (h : accepted call world.database = .ok row) :
    (IsAnnounceable row ∧ (Api.desk.answer arrival world).status = 200) ∨
      (¬IsAnnounceable row ∧ (Api.desk.answer arrival world).status = 500) := by
  rw [Application.answer_of_choice hchoice, Endpoint.answer_of_call hcall, addCollaborator_run,
    name_of_candidate h, IsAnnounceable]
  cases hname : ofUser row "username" with
  | error f =>
      obtain rfl := fault_of_ofUser hname
      refine .inr ⟨?_, rfl⟩
      rintro ⟨name, hother, -⟩
      cases hother
  | ok name =>
      simp only [Except.ok.injEq, exists_eq_left']
      exact status_announced arrival.around.now name

end Arrival

/-- A call to add a collaborator is settled exactly if the user cannot be added, can be announced,
or has been a collaborator before.  If the user can be added and has no columns but those of the
table of users, the call fails, and the user is among the collaborators afterwards. -/
theorem settled_iff_announceable [Halves] {arrival : Arrival} {method : String}
    {captured : List (String × String)} {call : Call} {world : World}
    (hchoice : Api.desk.choice arrival =
      .found (.endpoint method Api.Sheets.addCollaborator) captured)
    (hcall : Api.Sheets.addCollaborator.call? captured arrival.around arrival.request world =
      some call) :
    (IsSettled call world.database (Api.desk.answer arrival world)
        (Api.desk.after arrival world).database ↔
      ∀ row, accepted call world.database = .ok row →
        IsAnnounceable row ∨ IsAdded call world.database) ∧
    ∀ row, accepted call world.database = .ok row → IsStorable row →
      (Api.desk.answer arrival world).status = 500 ∧
        IsAdded call (Api.desk.after arrival world).database := by
  rcases candidate_cases world.database (call.arg "document_id") (call.arg "user_id")
      call.caller with ⟨f, hf, hfault⟩ | ⟨found, row, hrow, -, -⟩
  · obtain ⟨hstatus, hsame⟩ := refused_of_obstacle hchoice hcall hfault hf
    have hnobody : ∀ row, accepted call world.database ≠ .ok row := by
      intro row hrow
      rw [accepted, hfault] at hrow
      cases hrow
    have hfailed : (Api.desk.answer arrival world).status ≠ 200 := by
      intro hok
      simp [hok] at hstatus
    exact ⟨iff_of_true (.inr ⟨hfailed, by rw [hsame]⟩) fun row hrow => absurd hrow (hnobody row),
      fun row hrow => absurd hrow (hnobody row)⟩
  · have hall : ∀ {P : Row → Prop},
        (∀ other, accepted call world.database = .ok other → P other) ↔ P row := by
      intro P
      simp [accepted, hrow]
    obtain ⟨hadded, hsame⟩ := added_of_accepted hchoice hcall hrow
    rw [hall, hall, IsSettled]
    rcases status_of_accepted hchoice hcall hrow with ⟨hcan, hstatus⟩ | ⟨hcannot, hstatus⟩
    · exact ⟨iff_of_true (.inl ⟨hstatus, hadded⟩) (.inl hcan),
        fun hstorable => absurd hcan (not_isAnnounceable_of_isStorable hstorable)⟩
    · refine ⟨?_, fun _ => ⟨hstatus, hadded⟩⟩
      simp [hstatus, hsame, hcannot]

/-! ### A sheet with a first collaborator -/

/-- A user with a number. -/
def ann : Row := [("id", .int 1), ("email", .text "ann@example.com")]

/-- A user who has the columns of the table of users. -/
def bob : Row :=
  [("id", .text "bob"), ("email", .text "bob@example.com"), ("hashed_password", .text ""),
    ("full_name", .text "Bob"), ("is_active", .bool true), ("is_superuser", .bool false)]

/-- The first user's sheet. -/
def plan : Row := [("id", .text "plan"), ("created_by", .int 1), ("collaborators", .list [])]

/-- A world with a user's sheet and another user. -/
def office (other : Row) : World where
  library := .start (Stamp.ofSeconds 0)
  database := { tables := [("User", [ann, other]), (table, [plan])] }
  health := ⟨none, "test", 0⟩

section

open scoped Halves.Plain

/-- A request of the one user to add the other. -/
def addsBob : Arrival where
  around := asksForComments.around
  request :=
    { method := "POST", path := "/api/v1/collaboration/documents/plan/collaborators/bob",
      authorization := some ("Bearer " ++ Account.scribed "1") }

/-- The call of this request. -/
def bobAdded : Call :=
  ⟨addsBob.around, [("document_id", .text "plan"), ("user_id", .text "bob"),
    ("permission", .text "editor")], [], [], ann⟩

theorem choice_addsBob : Api.desk.choice addsBob =
    .found (.endpoint "POST" Api.Sheets.addCollaborator)
      [("document_id", "plan"), ("user_id", "bob")] := by
  have hsteps : Pattern.stepsOf addsBob.request.realPath =
      ["", "api", "v1", "collaboration", "documents", "plan", "collaborators", "bob"] := by
    decide +kernel
  have hmethod : addsBob.request.method = "POST" := rfl
  unfold Application.choice
  rw [hsteps, hmethod]
  exact Application.choose_of_getElem? (n := 14) rfl (by decide +kernel) (by decide +kernel)
    (by decide +kernel)

theorem call?_addsBob {other : Row} (hother : Row.get other "id" = .text "bob") :
    Api.Sheets.addCollaborator.call? [("document_id", "plan"), ("user_id", "bob")] addsBob.around
      addsBob.request (office other) = some bobAdded := by
  have hann : Account.ofToken Account.scribe (Stamp.ofSeconds 0) [ann, other]
      (Account.scribed "1") = .ok ann := by
    refine Account.ofToken_of_number (n := 1) rfl (by decide) List.mem_cons_self ?_
      (Account.current_scribed "1")
    intro row hrow hnumber
    rcases List.mem_pair.mp hrow with rfl | rfl
    · rfl
    · exact absurd hother (Account.not_text_of_hasNumber hnumber "bob")
  have hcaller : callerOf Api.Sheets.addCollaborator.callers addsBob.around (office other)
      addsBob.request = .ok ann := (callerOf_bearer rfl).trans hann
  unfold Endpoint.call?
  rw [hcaller]
  with_unfolding_all rfl

theorem accepted_bobAdded {other : Row} (hother : Row.get other "id" = .text "bob") :
    accepted bobAdded (office other).database = .ok other := by
  have hsheet : sheet (office other).database (.text "plan") = .ok plan := rfl
  have hmay : mayManage (office other).database plan ann = .ok true := rfl
  have huser : (office other).database.find? "User" (Table.holds "id" (.text "bob")) =
      some other := by
    change [ann, other].find? _ = _
    rw [List.find?_cons_of_neg (by decide),
      List.find?_cons_of_pos (Table.holds_text_iff.mpr hother)]
  change candidate (office other).database (.text "plan") (.text "bob") ann = _
  rw [candidate, hsheet, huser]
  simp only [bind, Except.bind, hmay]
  rfl

/-- A user with a name that can be sent is added and announced. -/
theorem named_user_added_and_announced :
    IsSettled bobAdded (office (("username", .text "bob") :: bob)).database
      (Api.desk.answer addsBob (office (("username", .text "bob") :: bob)))
      (Api.desk.after addsBob (office (("username", .text "bob") :: bob))).database := by
  refine (settled_iff_announceable choice_addsBob (call?_addsBob rfl)).1.mpr ?_
  intro row hrow
  rw [accepted_bobAdded rfl] at hrow
  obtain rfl := Except.ok.inj hrow
  exact .inl ⟨.text "bob", rfl, (Json.unsendable?_text_eq_none_iff "bob").mp (by decide +kernel)⟩

/-- A request to add a user who has the columns of the table of users fails, and the user is the
sheet's collaborator afterwards. -/
theorem failed_request_adds_stored_user :
    IsStorable bob ∧ (Api.desk.answer addsBob (office bob)).status = 500 ∧
      rosters (office bob).database = [(.text "plan", [])] ∧
      rosters (Api.desk.after addsBob (office bob)).database =
        [(.text "plan", [.text "bob"])] := by
  have hcall : Api.Sheets.addCollaborator.call? _ _ _ (office bob) = _ := call?_addsBob rfl
  have hstorable : IsStorable bob := by
    unfold IsStorable
    decide
  refine ⟨hstorable, ?_, rfl, ?_⟩
  · rcases status_of_accepted choice_addsBob hcall (accepted_bobAdded rfl) with
      ⟨hcan, -⟩ | ⟨-, hstatus⟩
    · exact absurd hcan (not_isAnnounceable_of_isStorable hstorable)
    · exact hstatus
  · rw [database_after choice_addsBob hcall]
    rfl

end

end Sheets

end Scriptorium
