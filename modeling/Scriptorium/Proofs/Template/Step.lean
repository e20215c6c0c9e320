import Scriptorium.Api
import Scriptorium.Proofs.Template.Library
import Scriptorium.Proofs.Template.Revision
import Scriptorium.Proofs.Web.Run
set_option autoImplicit false

/-!
# What a request does to the library

A request to the shelf leaves the library as it is, or is one of four: it creates, updates, deletes
or copies a template.  `Step` lists them with the entries that they leave and everything that has
been checked before.  All that is said about runs of requests follows from this list.
-/

namespace Scriptorium.Template

open Outcome Web

/-! ## Endpoints that succeed -/

theorem guarded_eq_ok_iff [Halves] {α : Type} {otherwise : String} {act : Outcome α} {a : α} :
    Api.Templates.guarded otherwise act = .ok a ↔ act = .ok a := by
  unfold Api.Templates.guarded
  cases act with
  | ok b => simp
  | error f =>
      dsimp only
      split <;> simp

/-- A guarded act that fails is a refused request. -/
theorem guarded_eq_error [Halves] {α : Type} {otherwise : String} {act : Outcome α} {f : Fault}
    (h : Api.Templates.guarded otherwise act = .error f) :
    ∃ status ∈ [400, 500], ∃ detail, f = .refused status detail := by
  unfold Api.Templates.guarded at h
  cases act with
  | ok a => cases h
  | error g =>
      dsimp only at h
      split at h <;> obtain rfl := Except.error.inj h
      all_goals exact ⟨_, by simp, _, rfl⟩

/-- The routes to documents keep the library. -/
theorem library_of_cabinet [Halves] {route : Route} (hroute : route ∈ Api.Cabinet.routes)
    {method : String}
    {endpoint : Endpoint} (hservice : route.service = .endpoint method endpoint) (call : Call)
    (world : World) : (endpoint.run call world).1.library = world.library := by
  simp only [Api.Cabinet.routes, List.mem_cons, List.not_mem_nil, or_false] at hroute
  rcases hroute with rfl | rfl | rfl | rfl | rfl | rfl | rfl <;>
    obtain ⟨rfl, rfl⟩ := Service.endpoint.inj hservice <;> rfl

/-! ## Operations that succeed -/

theorem Library.create_eq_ok_iff {lib after : Library} {t : Template} :
    lib.create t = .ok after ↔ lib.get? t.id = none ∧ after = lib.put t.id t := by
  unfold Library.create
  cases hget : lib.get? t.id with
  | none => simp [eq_comm]
  | some old => simp

theorem Library.find_eq_ok_iff [Halves] {lib : Library} {id : Value} {found : Option Template} :
    lib.find id = .ok found ↔ ∃ i, Library.readId id = .ok i ∧ lib.get? (.ident i) = found := by
  simp only [Library.find, bind_eq_ok_iff, pure_eq_ok_iff]

theorem Library.update_eq_ok [Halves] {lib after : Library} {id : Value} {updates : Fields}
    {now : Stamp} {t' : Template} (h : lib.update id updates now = .ok (after, some t')) :
    ∃ i t, Library.readId id = .ok i ∧ lib.get? (.ident i) = some t ∧ t' = t.update updates now ∧
      after = lib.put (t.update updates now).id (t.update updates now) := by
  simp only [Library.update, bind_eq_ok_iff] at h
  obtain ⟨found, hfind, hrest⟩ := h
  obtain ⟨i, hread, hget⟩ := Library.find_eq_ok_iff.mp hfind
  cases found with
  | none => simp [pure, Except.pure] at hrest
  | some t =>
      simp only at hrest
      split at hrest
      · simp only [pure_eq_ok_iff, Prod.mk.injEq, Option.some.injEq] at hrest
        obtain ⟨rfl, rfl⟩ := hrest
        exact ⟨i, t, hread, hget, rfl, rfl⟩
      · exact absurd hrest throw_ne_ok

theorem Library.delete_eq_ok [Halves] {lib after : Library} {id : Value}
    (h : lib.delete id = .ok (after, true)) :
    ∃ i t, Library.readId id = .ok i ∧ lib.get? (.ident i) = some t ∧
      t.isDefault.truthy = false ∧
      after = ⟨lib.entries.filter fun entry => !entry.1.same (.ident i)⟩ := by
  simp only [Library.delete, bind_eq_ok_iff] at h
  obtain ⟨i, hread, hrest⟩ := h
  split at hrest
  · simp [pure, Except.pure] at hrest
  · rename_i t hget
    split at hrest
    · exact absurd hrest throw_ne_ok
    · rename_i hflag
      simp only [pure_eq_ok_iff, Prod.mk.injEq, and_true] at hrest
      exact ⟨i, t, hread, hget, by simpa using hflag, hrest.symm⟩

theorem Library.update_eq_none [Halves] {lib after : Library} {id : Value} {updates : Fields}
    {now : Stamp} (h : lib.update id updates now = .ok (after, none)) : after = lib := by
  simp only [Library.update, bind_eq_ok_iff] at h
  obtain ⟨found, -, hrest⟩ := h
  cases found with
  | none => simpa [pure, Except.pure, eq_comm] using hrest
  | some t =>
      simp only at hrest
      split at hrest
      · simp [pure, Except.pure] at hrest
      · exact absurd hrest throw_ne_ok

theorem Library.delete_eq_false [Halves] {lib after : Library} {id : Value}
    (h : lib.delete id = .ok (after, false)) : after = lib := by
  simp only [Library.delete, bind_eq_ok_iff] at h
  obtain ⟨i, -, hrest⟩ := h
  split at hrest
  · simpa [pure, Except.pure, eq_comm] using hrest
  · split at hrest
    · exact absurd hrest throw_ne_ok
    · simp [pure, Except.pure] at hrest

theorem Library.copy_eq_ok [Halves] {lib after : Library}
    {source name description createdBy : Value} {now : Stamp} {t' : Template}
    (h : lib.copy source name description createdBy now = .ok (after, t')) :
    ∃ i t, Library.readId source = .ok i ∧ lib.get? (.ident i) = some t ∧
      lib.get? (.ident .nil) = none ∧
      after = lib.put (.ident .nil) (t.copied name description createdBy now) := by
  simp only [Library.copy, bind_eq_ok_iff] at h
  obtain ⟨found, hfind, hrest⟩ := h
  obtain ⟨i, hread, hget⟩ := Library.find_eq_ok_iff.mp hfind
  cases found with
  | none => exact absurd hrest throw_ne_ok
  | some t =>
      simp only [bind_eq_ok_iff, pure_eq_ok_iff, Prod.mk.injEq] at hrest
      obtain ⟨library, hcreate, rfl, -⟩ := hrest
      obtain ⟨hfree, hput⟩ := Library.create_eq_ok_iff.mp hcreate
      exact ⟨i, t, hread, hget, hfree, hput⟩

theorem Shelf.create_eq_ok [Halves] {s after : Shelf} {data : Fields} {now : Stamp} {t : Template}
    (h : s.create data now = (after, .ok t)) :
    ∃ fields taken, Forms.checked .template "Template" now data s.taken = .ok (fields, taken) ∧
      t = ofFields fields ∧ s.library.get? t.id = none ∧
      after.library = s.library.put t.id t := by
  unfold Shelf.create at h
  split at h
  · cases h
  · rename_i fields taken hchecked
    simp only at h
    split at h
    · rename_i library hcreate
      obtain ⟨rfl, rfl⟩ : _ ∧ _ := by simpa using h
      obtain ⟨hfree, rfl⟩ := Library.create_eq_ok_iff.mp hcreate
      exact ⟨fields, taken, hchecked, rfl, hfree, rfl⟩
    · simp at h

section Endpoints

variable (call : Call) (world : World)

theorem create_cases [Halves] :
    (Api.Templates.create.run call world).1.library = world.library ∨
      ∃ fields taken, Forms.checked .template "Template" call.around.now
          (call.changes "template_data") world.taken = .ok (fields, taken) ∧
        world.library.get? (ofFields fields).id = none ∧
        (Api.Templates.create.run call world).1.library =
          world.library.put (ofFields fields).id (ofFields fields) := by
  unfold Api.Templates.create Endpoint.changing
  dsimp only
  split
  · rename_i after result hok
    refine .inr ?_
    rw [guarded_eq_ok_iff] at hok
    generalize hmade : Shelf.create ⟨world.library, world.taken⟩ (call.changes "template_data")
      call.around.now = made at hok
    obtain ⟨shelf, outcome⟩ := made
    simp only [bind_eq_ok_iff, pure_eq_ok_iff, Prod.mk.injEq] at hok
    obtain ⟨t, rfl, rfl, -⟩ := hok
    obtain ⟨fields, taken, hchecked, rfl, hfree, hlibrary⟩ := Shelf.create_eq_ok hmade
    exact ⟨fields, taken, hchecked, hfree, hlibrary⟩
  · exact .inl rfl

theorem update_cases [Halves] :
    (∃ status ∈ [400, 500], ∃ detail,
      Api.Templates.update.run call world = (world, .error (.refused status detail))) ∨
      ∃ i t, Library.readId (call.arg "template_id") = .ok i ∧
        world.library.get? (.ident i) = some t ∧
        (Api.Templates.update.run call world).1.library =
          world.library.put (t.update (call.changes "template_data") call.around.now).id
            (t.update (call.changes "template_data") call.around.now) := by
  unfold Api.Templates.update Endpoint.changing
  dsimp only
  split
  · rename_i after result hok
    refine .inr ?_
    rw [guarded_eq_ok_iff, bind_eq_ok_iff] at hok
    obtain ⟨⟨library, shown⟩, hupdate, hend⟩ := hok
    cases shown with
    | none => exact absurd hend throw_ne_ok
    | some t' =>
        simp only [pure_eq_ok_iff, Prod.mk.injEq] at hend
        obtain ⟨rfl, -⟩ := hend
        obtain ⟨i, t, hread, hold, -, rfl⟩ := Library.update_eq_ok hupdate
        exact ⟨i, t, hread, hold, rfl⟩
  · rename_i f hfault
    obtain ⟨status, hstatus, detail, rfl⟩ := guarded_eq_error hfault
    exact .inl ⟨status, hstatus, detail, rfl⟩

/-- An update of a template that is found is stored, if its identifier can be a key. -/
theorem library_update_of_found [Halves] {i : Ident} {t : Template}
    (hread : Library.readId (call.arg "template_id") = .ok i)
    (hold : world.library.get? (.ident i) = some t)
    (hscalar : (t.update (call.changes "template_data") call.around.now).id.isScalar = true) :
    (Api.Templates.update.run call world).1.library =
      world.library.put (t.update (call.changes "template_data") call.around.now).id
        (t.update (call.changes "template_data") call.around.now) := by
  have hfind : world.library.find (call.arg "template_id") = .ok (some t) :=
    Library.find_eq_ok_iff.mpr ⟨i, hread, hold⟩
  have hupdate : world.library.update (call.arg "template_id") (call.changes "template_data")
      call.around.now =
        .ok (world.library.put (t.update (call.changes "template_data") call.around.now).id
          (t.update (call.changes "template_data") call.around.now),
          some (t.update (call.changes "template_data") call.around.now)) := by
    simp only [Library.update, bind_eq_ok_iff]
    refine ⟨some t, hfind, ?_⟩
    simp only [hscalar, if_true, pure_eq_ok_iff]
  unfold Api.Templates.update Endpoint.changing
  simp only [hupdate]
  rfl

theorem delete_cases [Halves] :
    (Api.Templates.delete.run call world).1.library = world.library ∨
      ∃ i t, Library.readId (call.arg "template_id") = .ok i ∧
        world.library.get? (.ident i) = some t ∧ t.isDefault.truthy = false ∧
        (Api.Templates.delete.run call world).1.library =
          ⟨world.library.entries.filter fun entry => !entry.1.same (.ident i)⟩ := by
  unfold Api.Templates.delete Endpoint.changing
  dsimp only
  split
  · rename_i after result hok
    refine .inr ?_
    rw [guarded_eq_ok_iff, bind_eq_ok_iff] at hok
    obtain ⟨⟨library, gone⟩, hdelete, hend⟩ := hok
    cases gone with
    | false => exact absurd hend throw_ne_ok
    | true =>
        simp only [pure_eq_ok_iff, Prod.mk.injEq] at hend
        obtain ⟨rfl, -⟩ := hend
        exact Library.delete_eq_ok hdelete
  · exact .inl rfl

theorem duplicate_cases [Halves] :
    (Api.Templates.duplicate.run call world).1.library = world.library ∨
      ∃ i t description createdBy, Library.readId (call.arg "template_id") = .ok i ∧
        world.library.get? (.ident i) = some t ∧
        (createdBy = .null ∨ ∃ j, createdBy = .ident j) ∧
        world.library.get? (.ident .nil) = none ∧
        (Api.Templates.duplicate.run call world).1.library =
          world.library.put (.ident .nil)
            (t.copied (call.arg "name") (.text description) createdBy call.around.now) := by
  unfold Api.Templates.duplicate Endpoint.changing
  dsimp only
  split
  · rename_i after result hok
    refine .inr ?_
    rw [guarded_eq_ok_iff] at hok
    split at hok
    · simp only [bind_eq_ok_iff, pure_eq_ok_iff, Prod.mk.injEq] at hok
      obtain ⟨createdBy, hcreator, ⟨library, t'⟩, hcopy, rfl, -⟩ := hok
      obtain ⟨i, t, hread, hget, hfree, rfl⟩ := Library.copy_eq_ok hcopy
      have hident : ∃ j, createdBy = .ident j := by
        cases hj : Library.readId (call.arg "created_by") with
        | error f => simp [hj, Functor.map, Except.map] at hcreator
        | ok j => exact ⟨j, by simpa [hj, Functor.map, Except.map] using hcreator.symm⟩
      exact ⟨i, t, _, createdBy, hread, hget, .inr hident, hfree, rfl⟩
    · simp only [bind_eq_ok_iff, pure_eq_ok_iff, Prod.mk.injEq] at hok
      obtain ⟨createdBy, rfl, ⟨library, t'⟩, hcopy, rfl, -⟩ := hok
      obtain ⟨i, t, hread, hget, hfree, rfl⟩ := Library.copy_eq_ok hcopy
      exact ⟨i, t, _, .null, hread, hget, .inl rfl, hfree, rfl⟩
  · exact .inl rfl

end Endpoints

/-! ## Steps -/

/-- The library after an arrival at a world. -/
inductive Step [Halves] (arrival : Arrival) (world : World) : Library → Prop
  | nothing : Step arrival world world.library
  | created {captured : List (String × String)} {call : Call} {fields : Fields} {taken : Nat}
      {i : Ident}
      (hchoice : Api.shelf.choice arrival = .found (.endpoint "POST" Api.Templates.create) captured)
      (hcall : Api.Templates.create.call? captured arrival.around arrival.request world = some call)
      (hchecked : Forms.checked .template "Template" call.around.now
        (call.changes "template_data") world.taken = .ok (fields, taken))
      (hid : (ofFields fields).id = .ident i) (hfree : world.library.get? (.ident i) = none) :
      Step arrival world ⟨world.library.entries ++ [(.ident i, ofFields fields)]⟩
  | updated {captured : List (String × String)} {call : Call} {i : Ident} {t : Template}
      {front rest : List (Value × Template)}
      (hchoice : Api.shelf.choice arrival = .found (.endpoint "PUT" Api.Templates.update) captured)
      (hcall : Api.Templates.update.call? captured arrival.around arrival.request world = some call)
      (hread : Library.readId (call.arg "template_id") = .ok i)
      (hold : world.library.get? (.ident i) = some t)
      (hentries : world.library.entries = front ++ (.ident i, t) :: rest) :
      Step arrival world
        ⟨front ++ (.ident i, t.revised (call.changes "template_data") call.around.now) :: rest⟩
  | deleted {captured : List (String × String)} {call : Call} {i : Ident} {t : Template}
      {front rest : List (Value × Template)}
      (hchoice : Api.shelf.choice arrival =
        .found (.endpoint "DELETE" Api.Templates.delete) captured)
      (hcall : Api.Templates.delete.call? captured arrival.around arrival.request world = some call)
      (hread : Library.readId (call.arg "template_id") = .ok i)
      (hold : world.library.get? (.ident i) = some t) (hflag : t.isDefault.truthy = false)
      (hentries : world.library.entries = front ++ (.ident i, t) :: rest) :
      Step arrival world ⟨front ++ rest⟩
  | copied {captured : List (String × String)} {call : Call} {i : Ident} {t : Template}
      {description : String} {createdBy : Value}
      (hchoice : Api.shelf.choice arrival =
        .found (.endpoint "POST" Api.Templates.duplicate) captured)
      (hcall : Api.Templates.duplicate.call? captured arrival.around arrival.request world =
        some call)
      (hread : Library.readId (call.arg "template_id") = .ok i)
      (hold : world.library.get? (.ident i) = some t)
      (hcreator : createdBy = .null ∨ ∃ j, createdBy = .ident j)
      (hfree : world.library.get? (.ident .nil) = none) :
      Step arrival world ⟨world.library.entries ++ [(.ident .nil,
        t.copied (call.arg "name") (.text description) createdBy call.around.now)]⟩

/-- The routes of the shelf: pages, the routes to documents, those to templates, and its health. -/
theorem mem_shelf_cases [Halves] {route : Route} (h : route ∈ Api.shelf.routes) {method : String}
    {endpoint : Endpoint} (hservice : route.service = .endpoint method endpoint) :
    (∃ inner ∈ Api.Cabinet.routes, inner.service = .endpoint method endpoint) ∨
      (∃ inner ∈ Api.Templates.routes, inner.service = .endpoint method endpoint) ∨
      ∃ fields, endpoint = Api.saying fields := by
  simp only [Api.shelf, List.mem_append, Api.below, List.mem_map] at h
  rcases h with ((hpage | ⟨inner, hinner, rfl⟩) | ⟨inner, hinner, rfl⟩) | hhealth
  · simp only [Api.pages, List.mem_cons, List.not_mem_nil, or_false] at hpage
    rcases hpage with rfl | rfl | rfl | rfl <;> cases hservice
  · exact .inl ⟨inner, hinner, hservice⟩
  · exact .inr (.inl ⟨inner, hinner, hservice⟩)
  · obtain rfl := List.mem_singleton.mp hhealth
    obtain ⟨-, rfl⟩ := Service.endpoint.inj hservice
    exact .inr (.inr ⟨_, rfl⟩)

section After

variable {arrival : Arrival} {world : World} (hkeyed : world.library.Keyed)

include hkeyed

/-- An update replaces the entry of its template by that of the revised one. -/
theorem put_update [Halves] {captured : List (String × String)} {call : Call} {i : Ident}
    {t : Template}
    (hcall : Api.Templates.update.call? captured arrival.around arrival.request world = some call)
    (hold : world.library.get? (.ident i) = some t) :
    (t.update (call.changes "template_data") call.around.now).id = .ident i ∧
      ∃ front rest, world.library.entries = front ++ (.ident i, t) :: rest ∧
        world.library.put (t.update (call.changes "template_data") call.around.now).id
            (t.update (call.changes "template_data") call.around.now) =
          ⟨front ++
            (.ident i, t.revised (call.changes "template_data") call.around.now) :: rest⟩ := by
  obtain ⟨hid, front, rest, hentries, hput⟩ := hkeyed.put_split hold
  rw [update_eq_revised (changes_of_call hcall)]
  have hsame : (t.revised (call.changes "template_data") call.around.now).id = .ident i := hid
  refine ⟨hsame, front, rest, hentries, ?_⟩
  rw [hsame, hput]

variable (arrival) in
/-- Every arrival takes one of the steps. -/
theorem step_after [Halves] : Step arrival world (Api.shelf.after arrival world).library := by
  rcases Application.after_cases Api.shelf arrival world with
    hsame | ⟨route, hroute, method, endpoint, captured, call, hservice, hchoice, hcall, hafter⟩
  · rw [hsame]
    exact .nothing
  · rw [hafter]
    have hkept : (endpoint.run call world).1.library = world.library →
        Step arrival world (endpoint.run call world).1.library := by
      intro hlibrary
      rw [hlibrary]
      exact .nothing
    rcases mem_shelf_cases hroute hservice with
      ⟨inner, hinner, hservice⟩ | ⟨inner, hinner, hservice⟩ | ⟨fields, rfl⟩
    · exact hkept (library_of_cabinet hinner hservice call world)
    · simp only [Api.Templates.routes, List.mem_cons, List.not_mem_nil, or_false] at hinner
      rcases hinner with rfl | rfl | rfl | rfl | rfl | rfl | rfl <;>
        obtain ⟨rfl, rfl⟩ := Service.endpoint.inj hservice
      · exact hkept rfl
      · exact hkept rfl
      · rcases create_cases call world with hsame | ⟨fields, taken, hchecked, hfree, hlibrary⟩
        · exact hkept hsame
        · obtain ⟨i, hid⟩ := (declared_ofFields (Forms.fits_of_checked hchecked)).1.id.eq_ident
          rw [hid] at hfree
          rw [hlibrary, hid, Library.put_of_get?_eq_none hfree]
          exact .created hchoice hcall hchecked hid hfree
      · rcases update_cases call world with
          ⟨status, -, detail, hrun⟩ | ⟨i, t, hread, hold, hlibrary⟩
        · exact hkept (by rw [hrun])
        · obtain ⟨-, front, rest, hentries, hput⟩ := put_update hkeyed hcall hold
          rw [hlibrary, hput]
          exact .updated hchoice hcall hread hold hentries
      · rcases delete_cases call world with hsame | ⟨i, t, hread, hold, hflag, hlibrary⟩
        · exact hkept hsame
        · obtain ⟨-, front, rest, hentries, hfilter⟩ := hkeyed.delete_split hold
          rw [hlibrary, hfilter]
          exact .deleted hchoice hcall hread hold hflag hentries
      · rcases duplicate_cases call world with
          hsame | ⟨i, t, description, createdBy, hread, hold, hcreator, hfree, hlibrary⟩
        · exact hkept hsame
        · rw [hlibrary, Library.put_of_get?_eq_none hfree]
          exact .copied hchoice hcall hread hold hcreator hfree
      · exact hkept rfl
    · exact hkept rfl

end After

/-! ## Runs -/

/-- A world in which the service of templates is new. -/
def newService (rest : World) (now : Stamp) : World := { rest with library := .start now }

theorem Step.keyed [Halves] {arrival : Arrival} {world : World} {after : Library}
    (h : Step arrival world after) (hkeyed : world.library.Keyed) : after.Keyed := by
  have hsame : Library.Keyed ⟨world.library.entries⟩ := hkeyed
  cases h with
  | nothing => exact hkeyed
  | created _ _ _ hid hfree => exact hkeyed.add hid hfree
  | updated _ _ _ hold hentries =>
      rw [hentries] at hsame
      exact hsame.replace (hkeyed.split hold).1
  | deleted _ _ _ _ _ hentries =>
      rw [hentries] at hsame
      exact hsame.remove
  | copied _ _ _ _ _ hfree => exact hkeyed.add rfl hfree

/-- Every template of a service stands under its own identifier, and no identifier twice. -/
theorem keyed_afterAll [Halves] (rest : World) (now : Stamp) (arrivals : List Arrival) :
    (Api.shelf.afterAll arrivals (newService rest now)).library.Keyed := by
  refine Application.afterAll_of_step (I := fun world => world.library.Keyed) ?_ arrivals ?_
  · intro arrival world hkeyed
    exact (step_after arrival hkeyed).keyed hkeyed
  · exact Library.keyed_start now

/-! ### A service that has just been opened -/

/-- A world in which nothing has happened. -/
def opened : World :=
  newService { library := ⟨[]⟩, health := ⟨none, "test", 0⟩ } ⟨0, none⟩

/-- A request that arrives there at once. -/
def asking (request : Web.Request) : Arrival where
  around :=
    { now := ⟨0, none⟩, signer := { secret := "s" }, reply := .unreachable, marks := []
      similarities := [], documentation := { now := ⟨0, none⟩ } }
  request := request

/-- A request with another method is no update. -/
theorem choice_ne_update [Halves] {arrival : Arrival} {method : String} {endpoint : Endpoint}
    {captured : List (String × String)}
    (h : Api.shelf.choice arrival = .found (.endpoint method endpoint) captured)
    (hmethod : method ≠ "PUT") (captured' : List (String × String)) :
    Api.shelf.choice arrival ≠ .found (.endpoint "PUT" Api.Templates.update) captured' := by
  rw [h]
  intro hsame
  injection hsame with hservice
  injection hservice with hput
  exact hmethod hput

end Scriptorium.Template
