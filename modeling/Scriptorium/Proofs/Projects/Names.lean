import Scriptorium.Proofs.Projects.Owners
set_option autoImplicit false

/-!
# Names of projects

No owner starts a second project under a name that is in use.  A change of a project asks for no
such thing: whoever gives a project the name of another one of the own projects has two projects of
that name afterwards.  Along every run, the names of the projects of every owner stay different as
long as no change takes a name that is in use, and not beyond.
-/

namespace Scriptorium.Projects

open Web

/-! ## Projects that share their owner and name -/

/-- The second project has the owner and the name of the first one. -/
def twins (a b : Row) : Bool := isCalled (Row.get a "name") (Row.get a "owner_id") b

/-- No two projects have the same owner and the same name. -/
def NamesDiffer (world : World) : Prop := (projectsOf world).Pairwise fun a b => ¬twins a b

instance (world : World) : Decidable (NamesDiffer world) :=
  inferInstanceAs (Decidable ((projectsOf world).Pairwise fun a b => ¬twins a b))

/-- The names of projects after a change of one of them, if they differed before. -/
theorem pairwise_replace_iff {front rest : Table} {row : Row} (row' : Row)
    (h : (front ++ row :: rest).Pairwise fun a b => ¬twins a b) :
    ((front ++ row' :: rest).Pairwise fun a b => ¬twins a b) ↔
      (∀ other ∈ front, ¬twins other row') ∧ ∀ other ∈ rest, ¬twins row' other := by
  simp only [List.pairwise_append, List.pairwise_cons, List.mem_cons, forall_eq_or_imp] at h ⊢
  obtain ⟨hfront, ⟨-, hrest⟩, hacross⟩ := h
  constructor
  · rintro ⟨-, ⟨hlater, -⟩, hearlier⟩
    exact ⟨fun other hother => (hearlier other hother).1, hlater⟩
  · rintro ⟨hearlier, hlater⟩
    exact ⟨hfront, ⟨hlater, hrest⟩,
      fun other hother => ⟨hearlier other hother, (hacross other hother).2⟩⟩

/-- The names of projects still differ after one is gone. -/
theorem NamesDiffer.of_sublist {world world' : World} (h : NamesDiffer world)
    (hsub : (projectsOf world').Sublist (projectsOf world)) : NamesDiffer world' :=
  List.Pairwise.sublist hsub h

/-! ## Changed projects -/

section Changed

variable {row : Row} {changes : Fields}

/-- A change that gives neither an owner nor a name makes no twins. -/
theorem twins_merge_of_not_mem (row : Row) (howner : "owner_id" ∉ Fields.names changes)
    (hname : "name" ∉ Fields.names changes) (other : Row) :
    twins (Fields.merge row changes) other = twins row other ∧
      twins other (Fields.merge row changes) = twins other row := by
  simp only [twins, isCalled, ownedBy, Table.holds, Row.get_merge_of_not_mem _ howner,
    Row.get_merge_of_not_mem _ hname, and_self]

variable {number name : Value} {n : Int}

/-- A change that gives a name makes twins of the project and those of its owner that have this
name. -/
theorem twins_merge_of_name (hnodup : (Fields.names changes).Nodup)
    (howner : "owner_id" ∉ Fields.names changes) (hname : Fields.get? changes "name" = some name)
    (hplain : ∀ v : Value, name.same v = v.same name)
    (hnumber : number.same (.int n) = true) (hrow : ownedBy number row = true) (other : Row) :
    twins (Fields.merge row changes) other = isCalled name number other ∧
      twins other (Fields.merge row changes) = isCalled name number other := by
  have hgiven : Row.get (Fields.merge row changes) "name" = name := by
    rw [Row.get_merge hnodup, hname]
    rfl
  -- The owner of the project is the number, in every comparison.
  have hint : (Row.get row "owner_id").same (.int n) = true :=
    (Value.same_congr_of_same_int hnumber _).symm.trans hrow
  have hstands : ∀ v : Value, v.same (Row.get row "owner_id") = v.same number := by
    intro v
    rw [Value.same_congr_of_same_int hint, Value.same_congr_of_same_int hnumber]
  have hcomm : ∀ v : Value, (Row.get row "owner_id").same v = v.same (Row.get row "owner_id") := by
    have hsome : ((Row.get row "owner_id").number?.map (·.same (.whole n))).getD false = true :=
      (Value.same_of_number? rfl _).symm.trans hint
    cases hnum : (Row.get row "owner_id").number? with
    | none => simp [hnum] at hsome
    | some x => exact Value.same_comm_of_number? hnum
  simp only [twins, isCalled, ownedBy, Table.holds, hgiven, Row.get_merge_of_not_mem _ howner,
    hcomm, hplain, hstands, and_self]

end Changed

/-! ## Requests -/

/-- A change of an own project gives it the name of another own project. -/
def TakesName [Halves] (arrival : Arrival) (world : World) : Prop :=
  ∃ captured call row name,
    Api.office.choice arrival = .found (.endpoint "PUT" Api.Projects.update) captured ∧
    Api.Projects.update.call? captured arrival.around arrival.request world = some call ∧
    read world.database (call.arg "project_id") call.number = .ok row ∧
    Fields.get? (call.changes "project_in") "name" = some name ∧
    ∃ other ∈ (projectsOf world).dropFirst (isOwned (call.arg "project_id") call.number),
      isCalled name call.number other

section Update

variable {captured : List (String × String)} {around : Surroundings} {request : Web.Request}
  {world₀ world : World} {call : Call} {row : Row}

theorem find?_of_read {db : Database} {number owner : Value} (h : read db number owner = .ok row) :
    (db.table table).find? (isOwned number owner) = some row := by
  unfold read Database.find? at h
  split at h
  · rename_i found hfind
    rw [hfind, Except.ok.inj h]
  · cases h

variable [Halves] (hcall : Api.Projects.update.call? captured around request world₀ = some call)
include hcall

/-- The caller goes by a number. -/
theorem number_of_call : ∃ n : Int, call.number.same (.int n) = true := by
  obtain ⟨payload, taken, hcaller, -, -⟩ := Endpoint.of_call?_eq_some hcall
  obtain ⟨n, hfind⟩ := find?_of_callerOf hcaller
  have hsame := List.find?_some hfind
  exact ⟨n, hsame⟩

/-- A name that is given is a text or nothing, so that equality with it goes both ways. -/
theorem same_comm_of_name {name : Value}
    (hname : Fields.get? (call.changes "project_in") "name" = some name) (v : Value) :
    name.same v = v.same name := by
  have hslot : .optional "name" (.text 3 (some 100)) ∈ (Forms.form .projectUpdate).fields :=
    List.mem_of_getElem? (i := 0) rfl
  have htakes := Endpoint.takes_changes hcall rfl (by decide) (by decide) hslot hname
  rcases htakes.null_or_fits with rfl | hfits
  · exact Value.same_comm_of_null v
  · obtain ⟨s, rfl⟩ := hfits.eq_text
    exact Value.same_comm_of_text s v

/-- What a change makes of projects with different names: the names still differ exactly if the
change gives no name that another project of the caller has. -/
theorem pairwise_update_iff
    (hread : read world.database (call.arg "project_id") call.number = .ok row)
    (h : NamesDiffer world) :
    (((projectsOf world).changeFirst (isOwned (call.arg "project_id") call.number)
        (Fields.merge · (call.changes "project_in"))).Pairwise fun a b => ¬twins a b) ↔
      ∀ name, Fields.get? (call.changes "project_in") "name" = some name →
        ∀ other ∈ (projectsOf world).dropFirst (isOwned (call.arg "project_id") call.number),
          ¬isCalled name call.number other := by
  have hfind : (projectsOf world).find? (isOwned (call.arg "project_id") call.number) = some row :=
    find?_of_read hread
  have howner := owner_not_given hcall
  -- Only pairs with the changed project matter; the others are as they were.
  obtain ⟨front, rest, hrows, hothers, hchanged⟩ := Table.split_of_find? hfind
  rw [NamesDiffer, hrows] at h
  rw [hothers, hchanged, pairwise_replace_iff _ h]
  cases hname : Fields.get? (call.changes "project_in") "name" with
  | none =>
      have hkept := twins_merge_of_not_mem row howner ((Fields.get?_eq_none_iff _ _).mp hname)
      simp only [hkept, reduceCtorEq, false_imp_iff, implies_true, iff_true]
      exact (pairwise_replace_iff row h).mp h
  | some name =>
      obtain ⟨n, hnumber⟩ := number_of_call hcall
      have hnodup : (Fields.names (call.changes "project_in")).Nodup :=
        (Endpoint.names_changes_sublist hcall rfl (by decide)).nodup (by decide)
      have htwins := twins_merge_of_name hnodup howner hname (same_comm_of_name hcall hname) hnumber
        (ownedBy_of_isOwned (List.find?_some hfind))
      simp only [htwins, Option.some.injEq, forall_eq', List.mem_append, or_imp, forall_and]

end Update

section Steps

variable {arrival : Arrival} {world : World}

/-- A change that takes a name leaves two projects of this name. -/
theorem not_namesDiffer_of_takesName [Halves] (h : NamesDiffer world)
    (htakes : TakesName arrival world) :
    ¬NamesDiffer (Api.office.after arrival world) := by
  obtain ⟨captured, call, row, name, hchoice, hcall, hread, hname, other, hother, hcalled⟩ := htakes
  intro hafter
  rw [NamesDiffer, projectsOf, Application.after_of_choice hchoice, hcall, Option.elim_some,
    update_of_ok call world hread, Database.table_save] at hafter
  exact (pairwise_update_iff hcall hread h).mp hafter name hname other hother hcalled

/-- Nothing else does. -/
theorem namesDiffer_of_not_takesName [Halves] (hto : ToProjects arrival) (h : NamesDiffer world)
    (hnot : ¬TakesName arrival world) : NamesDiffer (Api.office.after arrival world) := by
  rcases Api.office.after_cases arrival world with
    hsame | ⟨-, -, method, endpoint, captured, call, -, hchoice, hcall, hafter⟩
  · rwa [hsame]
  · obtain ⟨route, hroute, hservice⟩ := hto _ _ hchoice
    rcases run_cases call world hroute hservice with
      hsame | ⟨rfl, rfl, row, hread, hsave⟩ | hdelete
    · rwa [hafter, hsame]
    · rw [NamesDiffer, projectsOf, hafter, hsave, Database.table_save]
      refine (pairwise_update_iff hcall hread h).mpr ?_
      intro name hname other hother hcalled
      exact hnot ⟨captured, call, row, name, hchoice, hcall, hread, hname, other, hother, hcalled⟩
    · refine h.of_sublist ?_
      rw [hafter, projectsOf, hdelete, Database.table_delete]
      exact Table.dropFirst_sublist _ _

end Steps

/-- Along a run of requests to the routes of projects that starts with different names, the names of
the projects of every owner differ after each request exactly if no request changes one of the
caller's projects to the name of another one. -/
theorem names_differ_iff_none_taken [Halves] {arrivals : List Arrival} {world : World}
    (hto : ∀ arrival ∈ arrivals, ToProjects arrival) (h : NamesDiffer world) :
    Api.office.Along (fun arrival world => NamesDiffer (Api.office.after arrival world))
        arrivals world ↔
      Api.office.Along (fun arrival world => ¬TakesName arrival world) arrivals world := by
  induction arrivals generalizing world with
  | nil => exact Iff.rfl
  | cons arrival rest ih =>
      have hrest : ∀ later ∈ rest, ToProjects later :=
        fun later hlater => hto later (List.mem_cons_of_mem arrival hlater)
      constructor
      · rintro ⟨hafter, halong⟩
        exact ⟨fun htakes => not_namesDiffer_of_takesName h htakes hafter,
          (ih hrest hafter).mp halong⟩
      · rintro ⟨hnot, halong⟩
        have hafter := namesDiffer_of_not_takesName (hto arrival List.mem_cons_self) h hnot
        exact ⟨hafter, (ih hrest hafter).mpr halong⟩

/-! ### One name for two projects -/

section

open scoped Halves.Plain

/-- What is asked for when the project 7 is to be named Globe. -/
theorem call?_namesGlobe (projects : Table) :
    Api.Projects.update.call? [("project_id", "7")] namesGlobe.around namesGlobe.request
        (worldWith projects) =
      some ⟨namesGlobe.around,
        [("project_id", .int 7),
          ("project_in", .record [("name", .text "Globe"), ("description", .null)])],
        ["name"], [], ann⟩ := by
  have hcaller : callerOf Api.Projects.update.callers namesGlobe.around (worldWith projects)
      namesGlobe.request = .ok ann :=
    callerOf_namesGlobe projects
  unfold Endpoint.call?
  rw [hcaller]
  with_unfolding_all rfl

/-- A change that gives a name which no other own project has keeps names different. -/
theorem names_differ_after_new_name :
    NamesDiffer (worldWith [project 7 "Atlas" 1, project 8 "Borealis" 1]) ∧
    NamesDiffer (Api.office.after namesGlobe
      (worldWith [project 7 "Atlas" 1, project 8 "Borealis" 1])) := by
  have hdiffer : NamesDiffer (worldWith [project 7 "Atlas" 1, project 8 "Borealis" 1]) := by decide
  have hnot : ¬TakesName namesGlobe
      (worldWith [project 7 "Atlas" 1, project 8 "Borealis" 1]) := by
    rintro ⟨captured, call, row, name, hchoice, hcall, -, hname, other, hother, hcalled⟩
    rw [choice_namesGlobe] at hchoice
    obtain ⟨-, rfl⟩ := Choice.found.inj hchoice
    rw [call?_namesGlobe] at hcall
    obtain rfl := Option.some.inj hcall
    obtain rfl := Option.some.inj hname
    obtain rfl : other = project 8 "Borealis" 1 := List.mem_singleton.mp hother
    exact absurd hcalled (by decide)
  have hto : ∀ arrival ∈ [namesGlobe], ToProjects arrival := by
    intro arrival harrival
    rw [List.mem_singleton.mp harrival]
    exact namesGlobe_toProjects
  exact ⟨hdiffer, ((names_differ_iff_none_taken hto hdiffer).mpr ⟨hnot, trivial⟩).1⟩

/-- An owner of two projects with different names gives one of them the name of the other, and then
has two projects of this name. -/
theorem names_alike_after_change :
    ToProjects namesGlobe ∧
    NamesDiffer (worldWith [project 7 "Atlas" 1, project 8 "Globe" 1]) ∧
    ¬NamesDiffer (Api.office.after namesGlobe
      (worldWith [project 7 "Atlas" 1, project 8 "Globe" 1])) := by
  have hdiffer : NamesDiffer (worldWith [project 7 "Atlas" 1, project 8 "Globe" 1]) := by decide
  refine ⟨namesGlobe_toProjects, hdiffer, not_namesDiffer_of_takesName hdiffer ?_⟩
  exact ⟨_, _, project 7 "Atlas" 1, .text "Globe", choice_namesGlobe, call?_namesGlobe _, rfl, rfl,
    project 8 "Globe" 1, List.mem_singleton.mpr rfl, by decide⟩

end

end Scriptorium.Projects
