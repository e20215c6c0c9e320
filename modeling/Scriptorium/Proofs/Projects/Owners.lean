import Scriptorium.Api
import Scriptorium.Proofs.Account
import Scriptorium.Proofs.Web.Arguments
import Scriptorium.Proofs.Web.Run
set_option autoImplicit false

/-!
# Projects and their owners

The projects of an owner are a table of their own: every operation that an owner asks for reads and
writes the rows of this table only, and the table of all projects is seen through it.  So two
databases in which the caller has the same projects give the caller the same answers and stay such
databases, and the projects of all others stay what they were.
-/

namespace Scriptorium.Projects

open Web

/-! ## The projects of an owner -/

/-- The stored projects. -/
def projectsOf (world : World) : Table := world.database.table table

/-- The projects of an owner. -/
def ownOf (owner : Value) (projects : Table) : Table := projects.filter (ownedBy owner)

/-- The projects of all others. -/
def foreignTo (owner : Value) (projects : Table) : Table :=
  projects.filter fun row => !ownedBy owner row

theorem ownedBy_of_isOwned {number owner : Value} {row : Row}
    (h : isOwned number owner row = true) : ownedBy owner row = true :=
  (Bool.and_eq_true_iff.mp h).2

section Operations

variable {db db' : Database} {owner : Value}

/-- Looking for one's project means looking among one's projects. -/
theorem find?_own (test : Row → Bool) (projects : Table) :
    projects.find? (fun row => test row && ownedBy owner row) =
      (ownOf owner projects).find? test := by
  rw [ownOf, List.find?_filter]
  congr 1
  funext row
  cases test row <;> cases ownedBy owner row <;> rfl

variable (h : ownOf owner (db'.table table) = ownOf owner (db.table table))
include h

theorem find?_congr (test : Row → Bool) :
    db'.find? table (fun row => test row && ownedBy owner row) =
      db.find? table (fun row => test row && ownedBy owner row) := by
  unfold Database.find?
  rw [find?_own, find?_own, h]

theorem read_congr (number : Value) : read db' number owner = read db number owner := by
  have hfind : db'.find? table (isOwned number owner) = db.find? table (isOwned number owner) :=
    find?_congr h _
  unfold read
  rw [hfind]

theorem list_congr (skip limit : Int) : list db' owner skip limit = list db owner skip limit := by
  unfold ownOf at h
  unfold list
  rw [h]

theorem create_congr (name : Value) : create db' name owner = create db name owner := by
  have hfind : db'.find? table (isCalled name owner) = db.find? table (isCalled name owner) :=
    find?_congr h _
  unfold create
  rw [hfind]

end Operations

/-! ## Changes and deletions -/

section Writing

variable {number owner : Value} {changes : Fields}

/-- Changes that do not give an owner leave every project with its owner. -/
theorem ownedBy_merge (h : "owner_id" ∉ Fields.names changes) (row : Row) :
    ownedBy owner (Fields.merge row changes) = ownedBy owner row := by
  unfold ownedBy Table.holds Row.get
  rw [Fields.get?_merge_of_not_mem row h]

theorem own_changeFirst (h : "owner_id" ∉ Fields.names changes) (projects : Table) :
    ownOf owner (projects.changeFirst (isOwned number owner) (Fields.merge · changes)) =
      (ownOf owner projects).changeFirst (isOwned number owner) (Fields.merge · changes) :=
  Table.filter_changeFirst_of_true (fun _ => ownedBy_of_isOwned) (ownedBy_merge h) projects

theorem foreign_changeFirst (h : "owner_id" ∉ Fields.names changes) (projects : Table) :
    foreignTo owner (projects.changeFirst (isOwned number owner) (Fields.merge · changes)) =
      foreignTo owner projects := by
  refine Table.filter_changeFirst_of_false ?_ ?_ projects
  · intro row hrow
    rw [ownedBy_of_isOwned hrow]
    rfl
  · intro row
    rw [ownedBy_merge h]

theorem own_dropFirst (projects : Table) :
    ownOf owner (projects.dropFirst (isOwned number owner)) =
      (ownOf owner projects).dropFirst (isOwned number owner) :=
  Table.filter_dropFirst_of_true (fun _ => ownedBy_of_isOwned) projects

theorem foreign_dropFirst (projects : Table) :
    foreignTo owner (projects.dropFirst (isOwned number owner)) = foreignTo owner projects := by
  refine Table.filter_dropFirst_of_false ?_ projects
  intro row hrow
  rw [ownedBy_of_isOwned hrow]
  rfl

end Writing

/-! ## Endpoints -/

section Endpoints

variable (call : Call) (world : World)

theorem update_of_error {fault : Fault}
    (h : read world.database (call.arg "project_id") call.number = .error fault) :
    Api.Projects.update.run call world = (world, .error fault) := by
  simp only [Api.Projects.update, Endpoint.changing, update, h, bind, Except.bind]

theorem update_of_ok {row : Row}
    (h : read world.database (call.arg "project_id") call.number = .ok row) :
    Api.Projects.update.run call world =
      ({ world with
          database := world.database.save table (isOwned (call.arg "project_id") call.number)
            (Fields.merge · (call.changes "project_in")) },
        .ok (.row (Fields.merge row (call.changes "project_in")))) := by
  simp only [Api.Projects.update, Endpoint.changing, update, h, bind, Except.bind, pure,
    Except.pure]

theorem delete_of_error {fault : Fault}
    (h : read world.database (call.arg "project_id") call.number = .error fault) :
    Api.Projects.delete.run call world = (world, .error fault) := by
  simp only [Api.Projects.delete, Endpoint.changing, delete, discard, h, Functor.mapConst,
    Except.map, Function.comp, bind, Except.bind]

theorem delete_of_ok {row : Row}
    (h : read world.database (call.arg "project_id") call.number = .ok row) :
    Api.Projects.delete.run call world =
      ({ world with
          database := world.database.delete table (isOwned (call.arg "project_id") call.number) },
        .ok (.value .null)) := by
  simp only [Api.Projects.delete, Endpoint.changing, delete, discard, h, Functor.mapConst,
    Except.map, Function.comp, bind, Except.bind, pure, Except.pure]

/-- What a call of an endpoint of projects does to the world: nothing, or it changes or deletes one
project of the caller. -/
theorem run_cases {route : Route} {method : String} {endpoint : Endpoint}
    (hroute : route ∈ Api.Projects.routes) (hservice : route.service = .endpoint method endpoint) :
    (endpoint.run call world).1 = world ∨
    (method = "PUT" ∧ endpoint = Api.Projects.update ∧
      ∃ row, read world.database (call.arg "project_id") call.number = .ok row ∧
        (endpoint.run call world).1.database =
          world.database.save table (isOwned (call.arg "project_id") call.number)
            (Fields.merge · (call.changes "project_in"))) ∨
    (endpoint.run call world).1.database =
      world.database.delete table (isOwned (call.arg "project_id") call.number) := by
  simp only [Api.Projects.routes, List.mem_cons, List.not_mem_nil, or_false] at hroute
  rcases hroute with rfl | rfl | rfl | rfl | rfl <;>
    obtain ⟨rfl, rfl⟩ := Service.endpoint.inj hservice
  · exact .inl rfl
  · exact .inl rfl
  · exact .inl rfl
  · cases hread : read world.database (call.arg "project_id") call.number with
    | error fault =>
        rw [update_of_error call world hread]
        exact .inl rfl
    | ok row =>
        rw [update_of_ok call world hread]
        exact .inr (.inl ⟨rfl, rfl, row, rfl, rfl⟩)
  · cases hread : read world.database (call.arg "project_id") call.number with
    | error fault =>
        rw [delete_of_error call world hread]
        exact .inl rfl
    | ok row =>
        rw [delete_of_ok call world hread]
        exact .inr (.inr rfl)

end Endpoints

section Calls

variable {captured : List (String × String)} {around : Surroundings} {request : Web.Request}
  {world₀ : World} {call : Call}

/-- Callers cannot give a project to somebody. -/
theorem owner_not_given [Halves]
    (hcall : Api.Projects.update.call? captured around request world₀ = some call) :
    "owner_id" ∉ Fields.names (call.changes "project_in") := by
  intro hmem
  have hsub := Endpoint.names_changes_sublist hcall rfl (by decide)
  exact absurd (hsub.subset hmem) (by decide)

variable {route : Route} {method : String} {endpoint : Endpoint}
  (hroute : route ∈ Api.Projects.routes) (hservice : route.service = .endpoint method endpoint)

include hroute hservice

theorem callers_eq : endpoint.callers = .activeUsers := by
  simp only [Api.Projects.routes, List.mem_cons, List.not_mem_nil, or_false] at hroute
  rcases hroute with rfl | rfl | rfl | rfl | rfl <;>
    obtain ⟨rfl, rfl⟩ := Service.endpoint.inj hservice <;> rfl

variable [Halves] (hcall : endpoint.call? captured around request world₀ = some call)

include hcall

/-- A call leaves the projects of all others alone, and every other table. -/
theorem foreign_run (world : World) :
    foreignTo call.number (projectsOf (endpoint.run call world).1) =
        foreignTo call.number (projectsOf world) ∧
      ∀ name, name ≠ table →
        (endpoint.run call world).1.database.table name = world.database.table name := by
  rcases run_cases call world hroute hservice with
    hsame | ⟨-, rfl, row, -, hsave⟩ | hdelete
  · rw [hsame]
    exact ⟨rfl, fun _ _ => rfl⟩
  · refine ⟨?_, ?_⟩
    · rw [projectsOf, hsave, Database.table_save]
      exact foreign_changeFirst (owner_not_given hcall) _
    · intro name hname
      rw [hsave]
      exact Database.table_setTable_of_ne _ hname _
  · refine ⟨?_, ?_⟩
    · rw [projectsOf, hdelete, Database.table_delete]
      exact foreign_dropFirst _
    · intro name hname
      rw [hdelete]
      exact Database.table_setTable_of_ne _ hname _

/-- Where the caller has the same projects, a call gives the same and leaves the same projects. -/
theorem run_congr {world world' : World}
    (h : ownOf call.number (projectsOf world') = ownOf call.number (projectsOf world)) :
    (endpoint.run call world').2 = (endpoint.run call world).2 ∧
      ownOf call.number (projectsOf (endpoint.run call world').1) =
        ownOf call.number (projectsOf (endpoint.run call world).1) := by
  have hread := read_congr h (call.arg "project_id")
  simp only [Api.Projects.routes, List.mem_cons, List.not_mem_nil, or_false] at hroute
  rcases hroute with rfl | rfl | rfl | rfl | rfl <;>
    obtain ⟨rfl, rfl⟩ := Service.endpoint.inj hservice
  · exact ⟨congrArg (Result.row <$> ·) (create_congr h _), h⟩
  · exact ⟨congrArg (fun rows => Except.ok (Result.rows rows)) (list_congr h _ _), h⟩
  · exact ⟨congrArg (Result.row <$> ·) hread, h⟩
  · cases hfound : read world.database (call.arg "project_id") call.number with
    | error fault =>
        rw [update_of_error call world hfound, update_of_error call world' (hread.trans hfound)]
        exact ⟨rfl, h⟩
    | ok row =>
        have hgiven := owner_not_given hcall
        rw [update_of_ok call world hfound, update_of_ok call world' (hread.trans hfound)]
        refine ⟨rfl, ?_⟩
        simp only [projectsOf, Database.table_save] at h ⊢
        rw [own_changeFirst hgiven, own_changeFirst hgiven, h]
  · cases hfound : read world.database (call.arg "project_id") call.number with
    | error fault =>
        rw [delete_of_error call world hfound, delete_of_error call world' (hread.trans hfound)]
        exact ⟨rfl, h⟩
    | ok row =>
        rw [delete_of_ok call world hfound, delete_of_ok call world' (hread.trans hfound)]
        refine ⟨rfl, ?_⟩
        simp only [projectsOf, Database.table_delete] at h ⊢
        rw [own_dropFirst, own_dropFirst, h]

end Calls

/-! ## Requests -/

/-- An arrival leads to no service but those of the routes to projects. -/
def ToProjects [Halves] (arrival : Arrival) : Prop :=
  ∀ service captured, Api.office.choice arrival = .found service captured →
    ∃ route ∈ Api.Projects.routes, route.service = service

/-- In two worlds in which the caller has the same projects, whatever else differs, a request of the
caller to the routes of projects is answered alike and leaves the caller the same projects.  It
leaves every project of all others and every other table as they were. -/
theorem requests_stay_with_caller [Halves] {arrival : Arrival} {caller : Row} {world world' : World}
    (hto : ToProjects arrival)
    (hcaller : callerOf .activeUsers arrival.around world arrival.request = .ok caller)
    (hcaller' : callerOf .activeUsers arrival.around world' arrival.request = .ok caller)
    (hown : ownOf (Row.get caller "id") (projectsOf world') =
      ownOf (Row.get caller "id") (projectsOf world)) :
    Api.office.answer arrival world' = Api.office.answer arrival world ∧
    ownOf (Row.get caller "id") (projectsOf (Api.office.after arrival world')) =
      ownOf (Row.get caller "id") (projectsOf (Api.office.after arrival world)) ∧
    foreignTo (Row.get caller "id") (projectsOf (Api.office.after arrival world)) =
      foreignTo (Row.get caller "id") (projectsOf world) ∧
    ∀ name, name ≠ table →
      (Api.office.after arrival world).database.table name = world.database.table name := by
  have hsame : ∀ method endpoint captured,
      Api.office.choice arrival = .found (.endpoint method endpoint) captured →
      callerOf endpoint.callers arrival.around world' arrival.request =
        callerOf endpoint.callers arrival.around world arrival.request := by
    intro method endpoint captured hchoice
    obtain ⟨route, hroute, hservice⟩ := hto _ _ hchoice
    rw [callers_eq hroute hservice, hcaller, hcaller']
  rcases Application.two_runs hsame with ⟨hafter, hafter', hanswer⟩ |
    ⟨method, endpoint, captured, call, hchoice, hcall, hafter, hafter', hanswer⟩
  · rw [hafter, hafter']
    exact ⟨hanswer, hown, rfl, fun _ _ => rfl⟩
  · obtain ⟨route, hroute, hservice⟩ := hto _ _ hchoice
    have hnumber : call.number = Row.get caller "id" := by
      obtain ⟨payload, taken, haccepted, -, -⟩ := Endpoint.of_call?_eq_some hcall
      rw [callers_eq hroute hservice, hcaller] at haccepted
      rw [Call.number, Except.ok.inj haccepted]
    rw [← hnumber] at hown ⊢
    obtain ⟨hgives, hleaves⟩ := run_congr hroute hservice hcall hown
    obtain ⟨hforeign, htables⟩ := foreign_run hroute hservice hcall world
    rw [hafter, hafter']
    exact ⟨hanswer hgives, hleaves, hforeign, htables⟩

/-! ### A change among two projects of one number -/

/-- An active user. -/
def ann : Row := [("id", .int 1), ("email", .text "ann@example.com"), ("is_active", .bool true)]

/-- A project with a number and a name. -/
def project (number : Int) (name : String) (owner : Int) : Row :=
  [("id", .int number), ("name", .text name), ("owner_id", .int owner)]

/-- A world with one user and some projects. -/
def worldWith (projects : Table) : World where
  library := .start ⟨0, none⟩
  database := { tables := [("User", [ann]), (table, projects)] }
  health := ⟨none, "test", 0⟩

section

open scoped Halves.Plain

/-- A request of the user that gives the project 7 the name Globe. -/
def namesGlobe : Arrival where
  around :=
    { now := Stamp.ofSeconds 0, signer := Account.scribe, reply := .unreachable, marks := [],
      similarities := [], documentation := { now := Stamp.ofSeconds 0 } }
  request :=
    { method := "PUT", path := "/api/v1/projects/7",
      content := .json (.record [("name", .text "Globe")]),
      authorization := some ("Bearer " ++ Account.scribed "1") }

theorem choice_namesGlobe : Api.office.choice namesGlobe =
    .found (.endpoint "PUT" Api.Projects.update) [("project_id", "7")] := by
  have hsteps : Pattern.stepsOf namesGlobe.request.realPath =
      ["", "api", "v1", "projects", "7"] := by
    decide +kernel
  have hmethod : namesGlobe.request.method = "PUT" := rfl
  unfold Application.choice
  rw [hsteps, hmethod]
  exact Application.choose_of_getElem? (n := 18) rfl (by decide +kernel) (by decide +kernel)
    (by decide +kernel)

theorem namesGlobe_toProjects : ToProjects namesGlobe := by
  intro service captured hchoice
  rw [choice_namesGlobe] at hchoice
  obtain ⟨rfl, -⟩ := Choice.found.inj hchoice
  exact ⟨.lead "PUT" "/:project_id" "update_project" Api.Projects.update,
    by simp [Api.Projects.routes], rfl⟩

theorem callerOf_namesGlobe (projects : Table) :
    callerOf .activeUsers namesGlobe.around (worldWith projects) namesGlobe.request = .ok ann := by
  have hann : Account.ofToken Account.scribe (Stamp.ofSeconds 0) [ann] (Account.scribed "1") =
      .ok ann := Account.ofToken_scribed rfl (by decide) rfl
  have hbearer :
      callerOf .users namesGlobe.around (worldWith projects) namesGlobe.request = .ok ann :=
    (callerOf_bearer rfl).trans hann
  rw [callerOf_activeUsers, hbearer]
  rfl

/-- The project 7 of the user gets its name, whoever else has a project 7 and however that one is
called, and the other project 7 keeps its name. -/
theorem globe_named_beside_foreign_project :
    ToProjects namesGlobe ∧
    Api.office.answer namesGlobe (worldWith [project 7 "Borealis" 2, project 7 "Atlas" 1]) =
      Api.office.answer namesGlobe (worldWith [project 7 "Atlas" 1]) ∧
    foreignTo (.int 1) (projectsOf (Api.office.after namesGlobe
        (worldWith [project 7 "Borealis" 2, project 7 "Atlas" 1]))) =
      [project 7 "Borealis" 2] := by
  have hown : ∀ projects projects' : Table, ownOf (.int 1) projects' = ownOf (.int 1) projects →
      ownOf (Row.get ann "id") (projectsOf (worldWith projects')) =
        ownOf (Row.get ann "id") (projectsOf (worldWith projects)) := fun _ _ h => h
  have halike := requests_stay_with_caller namesGlobe_toProjects (callerOf_namesGlobe _)
    (callerOf_namesGlobe _)
    (hown [project 7 "Atlas" 1] [project 7 "Borealis" 2, project 7 "Atlas" 1] rfl)
  have hframe := requests_stay_with_caller namesGlobe_toProjects
    (callerOf_namesGlobe [project 7 "Borealis" 2, project 7 "Atlas" 1])
    (callerOf_namesGlobe [project 7 "Borealis" 2, project 7 "Atlas" 1]) rfl
  exact ⟨namesGlobe_toProjects, halike.1, hframe.2.2.1⟩

end

end Scriptorium.Projects
