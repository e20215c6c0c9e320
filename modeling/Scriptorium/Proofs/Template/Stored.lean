import Scriptorium.Proofs.Template.Step
set_option autoImplicit false

/-!
# Stored templates

After every run of requests the fields of all stored templates hold what they should, or nothing.
Nothing gets into a field that has to hold something only by an update that gives it.
-/

namespace Scriptorium.Template

open Schema Web

/-! ## New templates -/

section Copied

variable {t : Template} {name createdBy : Value} (description : String) (now : Stamp)

theorem Declared.copied [Halves] (ht : t.Declared) (hname : Fits Forms.form Forms.anyText name)
    (hcreator : createdBy = .null ∨ ∃ j, createdBy = .ident j) :
    (t.copied name (.text description) createdBy now).Declared where
  id := Forms.fits_ident .nil
  name := .inr hname
  description := .inr (Forms.fits_text description)
  category := ht.category
  isDefault := .inr (.plain rfl rfl)
  createdBy := by
    rcases hcreator with rfl | ⟨j, rfl⟩
    · exact .inl rfl
    · exact .inr (Forms.fits_ident j)
  version := ht.version
  sections := ht.sections
  bindings := ht.bindings
  createdAt := Forms.fits_stamp now
  updatedAt := Forms.fits_stamp now

theorem Filled.copied [Halves] (ht : t.Filled) (hname : Fits Forms.form Forms.anyText name) :
    (t.copied name (.text description) createdBy now).Filled := by
  simp only [Filled, List.forall_mem_cons] at ht ⊢
  obtain ⟨-, -, htype, -, hversion, -⟩ := ht
  exact ⟨hname.ne_null rfl, by simp [Template.copied], htype, by simp [Template.copied], hversion,
    by simp⟩

end Copied

theorem declared_defaultTemplate [Halves] (id : Ident) (name description : String)
    {category : String} (hcategory : category ∈ Forms.templateTypes) {s : Section}
    (hsection : Fits Forms.form (.form .templateSection) s.toValue) (now : Stamp) :
    (Library.defaultTemplate id name description category s now).Declared ∧
      (Library.defaultTemplate id name description category s now).Filled := by
  constructor
  · refine ⟨Forms.fits_ident id, .inr (Forms.fits_text name), .inr (Forms.fits_text description),
      .inr (Forms.fits_of_isDefaultOf ?_), .inr (.plain rfl rfl), .inl rfl,
      .inr (Forms.fits_text "1.0.0"), ⟨[s], rfl, by simpa using hsection⟩, ?_,
      Forms.fits_stamp now, Forms.fits_stamp now⟩
    · simpa [Library.defaultTemplate, Category.toValue, Forms.isDefaultOf] using hcategory
    · refine .mapping (by decide) ?_
      intro entry hentry
      simp only [List.mem_cons, List.not_mem_nil, or_false] at hentry
      rcases hentry with rfl | rfl | rfl <;> exact Forms.fits_text _
  · simp [Filled, Library.defaultTemplate, Category.toValue]

/-- The templates of a new library. -/
theorem declared_start [Halves] (now : Stamp) :
    ∀ t ∈ (Library.start now).templates, t.Declared ∧ t.Filled := by
  have hintroduction : Fits Forms.form (.form .templateSection) Library.introduction.toValue :=
    Section.fits_toValue (.inr (Forms.fits_text _)) (.list (by simp))
  have harchitecture : Fits Forms.form (.form .templateSection) Library.architecture.toValue :=
    Section.fits_toValue (.inr (Forms.fits_text _)) (.list (by simp))
  simp only [Library.start, Library.templates, List.map_cons, List.map_nil, List.forall_mem_cons]
  exact ⟨declared_defaultTemplate _ _ _ (by decide) hintroduction now,
    declared_defaultTemplate _ _ _ (by decide) harchitecture now, by simp⟩

/-! ## Runs -/

/-- What created, updated and copied templates have, all stored templates have. -/
theorem Step.all [Halves] {arrival : Arrival} {world : World} {after : Library}
    {P : Template → Prop} (h : Step arrival world after) (hold : ∀ t ∈ world.library.templates, P t)
    (hcreated : ∀ fields, Fits Forms.form (.form .template) (.record fields) → P (ofFields fields))
    (hupdated : ∀ captured call t,
      Api.shelf.choice arrival = .found (.endpoint "PUT" Api.Templates.update) captured →
      Api.Templates.update.call? captured arrival.around arrival.request world = some call →
      P t → P (t.revised (call.changes "template_data") call.around.now))
    (hcopied : ∀ t name description createdBy now, Fits Forms.form Forms.anyText name →
      (createdBy = .null ∨ ∃ j, createdBy = .ident j) → P t →
      P (t.copied name (.text description) createdBy now)) :
    ∀ t ∈ after.templates, P t := by
  have hfound : ∀ {i : Ident} {t : Template}, world.library.get? (.ident i) = some t → P t := by
    intro i t hget
    obtain ⟨front, k, rest, hentries, -, -⟩ := Library.split_of_get? hget
    exact hold t (List.mem_map.mpr ⟨(k, t), by simp [hentries], rfl⟩)
  simp only [Library.templates, List.forall_mem_map] at hold ⊢
  cases h with
  | nothing => exact hold
  | created hchoice hcall hchecked hid hfree =>
      rw [List.forall_mem_append, List.forall_mem_singleton]
      exact ⟨hold, hcreated _ (Forms.fits_of_checked hchecked)⟩
  | updated hchoice hcall hread hget hentries =>
      rw [hentries, List.forall_mem_append, List.forall_mem_cons] at hold
      rw [List.forall_mem_append, List.forall_mem_cons]
      exact ⟨hold.1, hupdated _ _ _ hchoice hcall hold.2.1, hold.2.2⟩
  | deleted hchoice hcall hread hget hflag hentries =>
      rw [hentries, List.forall_mem_append, List.forall_mem_cons] at hold
      rw [List.forall_mem_append]
      exact ⟨hold.1, hold.2.2⟩
  | copied hchoice hcall hread hget hcreator hfree =>
      have hnames : ((Api.Templates.duplicate.path ++ Api.Templates.duplicate.query).map
          (·.name)).Nodup := by
        simp [Api.Templates.duplicate, Api.Templates.ident, Slot.required, Slot.optional]
      have hname := Endpoint.fits_arg hcall hnames (.required "name" Forms.anyText)
        (by simp [Api.Templates.duplicate]) rfl
      rw [List.forall_mem_append, List.forall_mem_singleton]
      exact ⟨hold, hcopied _ _ _ _ _ hname hcreator (hfound hget)⟩

/-- All stored templates are of the declared types. -/
theorem declared_afterAll [Halves] (rest : World) (now : Stamp) (arrivals : List Arrival) :
    ∀ t ∈ (Api.shelf.afterAll arrivals (newService rest now)).library.templates, t.Declared := by
  refine (Application.afterAll_of_step
    (I := fun world => world.library.Keyed ∧ ∀ t ∈ world.library.templates, t.Declared) ?_ arrivals
    ⟨Library.keyed_start now, fun t ht => (declared_start now t ht).1⟩).2
  rintro arrival world ⟨hkeyed, hdeclared⟩
  have hstep := step_after arrival hkeyed
  refine ⟨hstep.keyed hkeyed, hstep.all hdeclared ?_ ?_ ?_⟩
  · intro fields hfields
    exact (declared_ofFields hfields).1
  · intro captured call t hchoice hcall ht
    exact ht.revised call.around.now (changes_of_call hcall)
  · intro t name description createdBy now hname hcreator ht
    exact ht.copied description now hname hcreator

/-- An arrival updates a template and gives nothing to one of its fields. -/
def GivesNothing [Halves] (arrival : Arrival) (world : World) : Prop :=
  ∃ captured call,
    Api.shelf.choice arrival = .found (.endpoint "PUT" Api.Templates.update) captured ∧
    Api.Templates.update.call? captured arrival.around arrival.request world = some call ∧
    ∃ entry ∈ call.changes "template_data", entry.2 = .null

/-- All stored templates are filled, unless an update has given nothing to a field. -/
theorem filled_afterAll [Halves] (rest : World) (now : Stamp) {arrivals : List Arrival}
    (h : Api.shelf.Along (fun arrival world => ¬GivesNothing arrival world) arrivals
      (newService rest now)) :
    ∀ t ∈ (Api.shelf.afterAll arrivals (newService rest now)).library.templates, t.Filled := by
  refine (Application.afterAll_of_along
    (I := fun world => world.library.Keyed ∧ ∀ t ∈ world.library.templates, t.Filled) ?_ h
    ⟨Library.keyed_start now, fun t ht => (declared_start now t ht).2⟩).2
  rintro arrival world hgives ⟨hkeyed, hfilled⟩
  have hstep := step_after arrival hkeyed
  refine ⟨hstep.keyed hkeyed, hstep.all hfilled ?_ ?_ ?_⟩
  · intro fields hfields
    exact (declared_ofFields hfields).2
  · intro captured call t hchoice hcall ht
    refine ht.revised call.around.now ?_
    intro entry hentry hnull
    exact hgives ⟨captured, call, hchoice, hcall, entry, hentry, hnull⟩
  · intro t name description createdBy now hname _ ht
    exact ht.copied description now hname

end Scriptorium.Template
