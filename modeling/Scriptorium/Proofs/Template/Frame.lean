import Scriptorium.Proofs.Template.Step
set_option autoImplicit false

/-!
# What requests leave alone

In every run of requests to a new service of templates each template stands under its own
identifier, and each request adds, replaces or takes out at most one entry.  An update that is
answered with success has replaced the addressed template by one with the given fields and the time
of the update; everything else of it is kept.  Reading changes nothing at all.
-/

namespace Scriptorium.Template

open Web

/-- A template is another one with some fields changed and the time of the change. -/
structure RevisionOf (t : Template) (changes : Fields) (now : Stamp) (t' : Template) : Prop where
  id : t'.id = t.id
  createdBy : t'.createdBy = t.createdBy
  sections : t'.sections = t.sections
  bindings : t'.bindings = t.bindings
  createdAt : t'.createdAt = t.createdAt
  updatedAt : t'.updatedAt = .stamp now
  given : ∀ name, name ≠ "updated_at" →
    Fields.get? t'.toFields name = (Fields.get? changes name).or (Fields.get? t.toFields name)

theorem revisionOf_revised [Halves] {changes : Fields} (h : Changes changes) (t : Template)
    (now : Stamp) :
    RevisionOf t changes now (t.revised changes now) where
  id := rfl
  createdBy := rfl
  sections := rfl
  bindings := rfl
  createdAt := rfl
  updatedAt := rfl
  given := fun _ hname => get?_toFields_revised now h hname

variable {arrival : Arrival} {world : World}

/-- An update that is answered with success has been stored. -/
theorem stored_of_status [Halves] {captured : List (String × String)}
    (hchoice : Api.shelf.choice arrival = .found (.endpoint "PUT" Api.Templates.update) captured)
    (hstatus : (Api.shelf.answer arrival world).status = 200) :
    ∃ call i t,
      Api.Templates.update.call? captured arrival.around arrival.request world = some call ∧
      Library.readId (call.arg "template_id") = .ok i ∧
      world.library.get? (.ident i) = some t ∧
      (Api.shelf.after arrival world).library =
        world.library.put (t.update (call.changes "template_data") call.around.now).id
          (t.update (call.changes "template_data") call.around.now) := by
  rw [Application.answer_of_choice hchoice] at hstatus
  have hanswered : (Api.Templates.update.answer Api.shelf.manner captured arrival.around
      arrival.request world).2.status = 200 := by
    rcases Answer.status_sent (Api.Templates.update.answer Api.shelf.manner captured arrival.around
      arrival.request world).2 with hsent | ⟨-, hbroken⟩
    · rwa [hsent] at hstatus
    · rw [hbroken] at hstatus
      cases hstatus
  cases hcall : Api.Templates.update.call? captured arrival.around arrival.request world with
  | none =>
      have hrefused := Endpoint.status_of_no_call rfl hcall Api.shelf.manner
      rw [hanswered] at hrefused
      simp at hrefused
  | some call =>
      have hafter := Application.after_of_choice hchoice world
      rw [hcall, Option.elim_some] at hafter
      rcases update_cases call world with
        ⟨status, hrefused, detail, hrun⟩ | ⟨i, t, hread, hold, hlibrary⟩
      · rw [Endpoint.answer_of_call hcall, hrun] at hanswered
        simp only [Answer.ofFault, Answer.status_refusal] at hanswered
        subst hanswered
        simp at hrefused
      · rw [← hafter] at hlibrary
        exact ⟨call, i, t, rfl, hread, hold, hlibrary⟩

/-- Endpoints that only read change nothing. -/
theorem after_of_reading [Halves] {method : String} {endpoint : Endpoint}
    {captured : List (String × String)}
    (hchoice : Api.shelf.choice arrival = .found (.endpoint method endpoint) captured)
    (hreading : endpoint ∈ [Api.Templates.list, Api.Templates.get, Api.Templates.render]) :
    Api.shelf.after arrival world = world := by
  rw [Application.after_of_choice hchoice world]
  cases endpoint.call? captured arrival.around arrival.request world with
  | none => rfl
  | some call =>
      simp only [List.mem_cons, List.not_mem_nil, or_false] at hreading
      rcases hreading with rfl | rfl | rfl <;> rfl

/-- In every run every template stands under its own identifier.  The next request adds, replaces or
takes out at most one entry.  An update that is answered with success replaces the addressed
template by one that differs in the given fields and the time of the update only.  Listing, getting
and rendering change nothing. -/
theorem requests_touch_one_template [Halves] (rest : World) (now : Stamp) (arrivals : List Arrival)
    (arrival : Arrival) :
    let world := Api.shelf.afterAll arrivals (newService rest now)
    let after := Api.shelf.after arrival world
    world.library.Keyed ∧ Step arrival world after.library ∧
      (∀ captured,
        Api.shelf.choice arrival = .found (.endpoint "PUT" Api.Templates.update) captured →
        (Api.shelf.answer arrival world).status = 200 →
        ∃ call i t t' front back,
          Api.Templates.update.call? captured arrival.around arrival.request world = some call ∧
          Library.readId (call.arg "template_id") = .ok i ∧
          world.library.entries = front ++ (.ident i, t) :: back ∧
          after.library.entries = front ++ (.ident i, t') :: back ∧
          RevisionOf t (call.changes "template_data") arrival.around.now t') ∧
      (∀ method endpoint captured,
        Api.shelf.choice arrival = .found (.endpoint method endpoint) captured →
        endpoint ∈ [Api.Templates.list, Api.Templates.get, Api.Templates.render] →
        after = world) := by
  intro world after
  have hkeyed : world.library.Keyed := keyed_afterAll rest now arrivals
  refine ⟨hkeyed, step_after arrival hkeyed, ?_, ?_⟩
  · intro captured hchoice hstatus
    obtain ⟨call, i, t, hcall, hread, hold, hafter⟩ := stored_of_status hchoice hstatus
    obtain ⟨-, front, back, hentries, hput⟩ := put_update hkeyed hcall hold
    rw [hput, Endpoint.around_of_call hcall] at hafter
    refine ⟨call, i, t, _, front, back, hcall, hread, hentries, ?_,
      revisionOf_revised (changes_of_call hcall) t arrival.around.now⟩
    exact congrArg Library.entries hafter
  · intro method endpoint captured hchoice hreading
    exact after_of_reading hchoice hreading

end Scriptorium.Template
