import Scriptorium.Proofs.Forms
import Scriptorium.Template.Library
set_option autoImplicit false

/-!
# Templates whose fields hold what they should

A template is `Declared` if its fields hold values of their types, or nothing in those fields that
an update may set to nothing.  It is `Filled` if no field that has to hold something holds nothing.
Such templates are exactly those that fit their form, so that they can be shown.
-/

namespace Scriptorium.Template

open Schema

/-- Nothing, or what fits a shape. -/
def Holds [Halves] (shape : Shape FormName) (v : Value) : Prop :=
  v = .null ∨ Fits Forms.form shape v

theorem Holds.takes [Halves] {slot : Slot FormName} {v : Value} (h : Holds slot.shape v)
    (hne : v ≠ .null) :
    slot.Takes Forms.form v :=
  ⟨fun hnull => absurd hnull hne, h.resolve_left⟩

/-- The fields hold values of their types; those that an update may give, and the creator, may hold
nothing. -/
structure Declared [Halves] (t : Template) : Prop where
  id : Fits Forms.form .ident t.id
  name : Holds Forms.anyText t.name
  description : Holds Forms.anyText t.description
  category : Holds (.member Forms.templateTypes) t.category.toValue
  isDefault : Holds .truth t.isDefault
  createdBy : Holds .ident t.createdBy
  version : Holds Forms.anyText t.version
  sections : ∃ known, t.sections = .known known ∧
    ∀ s ∈ known, Fits Forms.form (.form .templateSection) s.toValue
  bindings : Fits Forms.form (.mapping Forms.anyText) t.bindings
  createdAt : Fits Forms.form .moment t.createdAt
  updatedAt : Fits Forms.form .moment t.updatedAt

/-- No field that has to hold something holds nothing. -/
def Filled (t : Template) : Prop :=
  ∀ v ∈ [t.name, t.description, t.category.toValue, t.isDefault, t.version], v ≠ .null

/-! ## Templates of checked fields -/

/-- A section of checked fields is shown with these fields. -/
theorem Section.toValue_ofFields [Halves] {fields : Fields}
    (h : Fits Forms.form (.form .templateSection) (.record fields)) :
    (Section.ofFields fields).toValue = .record fields := by
  have hnodup := Forms.ownNames.nodup .templateSection (by decide)
  obtain ⟨hnames, htakes⟩ := (fits_record_iff hnodup fields).mp h
  have hfields := eq_map_of_names hnames hnodup
  have hget : ∀ {key : String} {v : Value}, (Fields.get? fields key).getD .null = v →
      v ≠ .null → Fields.get? fields key = some v := by
    intro key v hvalue hne
    cases hfound : Fields.get? fields key with
    | none =>
        rw [hfound] at hvalue
        exact absurd hvalue.symm hne
    | some w =>
        rw [hfound] at hvalue
        exact congrArg some hvalue
  simp only [Forms.form, Forms.fields, List.forall_mem_cons] at htakes
  obtain ⟨hid, htitle, hcontent, -, hvariables, horder, hrequired, -⟩ := htakes
  obtain ⟨id, hid⟩ := (hid.fits rfl).eq_text
  obtain ⟨title, htitle⟩ := (htitle.fits rfl).eq_text
  obtain ⟨content, hcontent⟩ := (hcontent.fits rfl).eq_text
  obtain ⟨items, hvariables, -⟩ := (hvariables.fits rfl).eq_list
  obtain ⟨order, horder⟩ := (horder.fits rfl).eq_int
  obtain ⟨required, hrequired⟩ := (hrequired.fits rfl).eq_bool
  have hid := hget hid (by simp)
  have htitle := hget htitle (by simp)
  have hcontent := hget hcontent (by simp)
  have hvariables := hget hvariables (by simp)
  have horder := hget horder (by simp)
  have hrequired := hget hrequired (by simp)
  simp only [Slot.required, Slot.defaulted] at hid htitle hcontent hvariables horder hrequired
  refine Eq.trans ?_ (congrArg Value.record hfields).symm
  simp [Section.toValue, Section.ofFields, Forms.form, Forms.fields, Slot.required, Slot.defaulted,
    Slot.optional, hid, htitle, hcontent, hvariables, horder, hrequired, Value.text?, Value.int?,
    Value.truthy]

/-- Sections are typed but for their description and their variables. -/
theorem Section.fits_toValue [Halves] {s : Section}
    (hdescription : Holds Forms.anyText s.description)
    (hvariables : Fits Forms.form (.list (.form .templateVariable)) s.bindings) :
    Fits Forms.form (.form .templateSection) s.toValue := by
  rw [toValue, fits_record_iff (Forms.ownNames.nodup .templateSection (by decide))]
  simp only [Forms.form, Forms.fields, List.forall_mem_cons]
  have hgiven : Slot.Takes Forms.form (.optional "description" Forms.anyText) s.description :=
    ⟨fun _ => rfl, hdescription.resolve_left⟩
  exact ⟨rfl, .of_fits (Forms.fits_text s.id) rfl, .of_fits (Forms.fits_text s.title) rfl,
    .of_fits (Forms.fits_text s.content) rfl, hgiven, .of_fits hvariables rfl,
    .of_fits (.plain rfl rfl) rfl, .of_fits (.plain rfl rfl) rfl, by simp⟩

/-- A template of checked fields holds them all. -/
theorem declared_ofFields [Halves] {fields : Fields}
    (h : Fits Forms.form (.form .template) (.record fields)) :
    (ofFields fields).Declared ∧ (ofFields fields).Filled := by
  have hnodup := Forms.ownNames.nodup .template (by decide)
  have htakes := ((fits_record_iff hnodup fields).mp h).2
  simp only [Forms.form, Forms.fields, Forms.templateBase, Forms.templateParts, List.cons_append,
    List.nil_append, List.forall_mem_cons] at htakes
  obtain ⟨hname, hdescription, htype, hflag, hcreator, hversion, hid, hsections, hvariables,
    hcreated, hupdated, -⟩ := htakes
  have hname := hname.fits rfl
  have hdescription := hdescription.fits rfl
  have htype := htype.fits rfl
  have hflag := hflag.fits rfl
  have hversion := hversion.fits rfl
  -- The type is kept as a text, and the sections one by one.
  have hcategory : (ofFields fields).category.toValue = (Fields.get? fields "type").getD .null := by
    obtain ⟨s, -, hs⟩ := htype.eq_member
    exact (congrArg (fun v : Value => Value.text ((v.text?).getD "")) hs).trans hs.symm
  constructor
  · refine ⟨hid.fits rfl, .inr hname, .inr hdescription, .inr (hcategory ▸ htype), .inr hflag,
      hcreator.null_or_fits, .inr hversion, ⟨_, rfl, ?_⟩, hvariables.fits rfl, hcreated.fits rfl,
      hupdated.fits rfl⟩
    obtain ⟨items, hitems, hfits⟩ := (hsections.fits rfl).eq_list
    intro s hs
    obtain ⟨item, hitem, rfl⟩ := List.mem_map.mp hs
    have hmem : item ∈ items := by
      simp only [Slot.defaulted] at hitems
      simpa only [hitems, Value.list?, Option.getD_some] using hitem
    obtain ⟨inner, rfl, -⟩ := (hfits item hmem).eq_record
    exact (Section.toValue_ofFields (hfits _ hmem)).symm ▸ hfits _ hmem
  · simp only [Filled, List.forall_mem_cons, hcategory]
    exact ⟨hname.ne_null rfl, hdescription.ne_null rfl, htype.ne_null rfl, hflag.ne_null rfl,
      hversion.ne_null rfl, by simp⟩

/-! ## Showing templates -/

/-- Templates of the declared types can be shown exactly if they are filled. -/
theorem fits_toValue_iff [Halves] {t : Template} (h : t.Declared) :
    Fits Forms.form (.form .template) t.toValue ↔ t.Filled := by
  have hnodup := Forms.ownNames.nodup .template (by decide)
  obtain ⟨known, hknown, hsections⟩ := h.sections
  rw [toValue, fits_record_iff hnodup]
  simp only [Forms.form, Forms.fields, Forms.templateBase, Forms.templateParts, List.cons_append,
    List.nil_append, List.forall_mem_cons, Filled]
  constructor
  · rintro ⟨-, hname, hdescription, htype, hflag, -, hversion, -⟩
    exact ⟨(hname.fits rfl).ne_null rfl, (hdescription.fits rfl).ne_null rfl,
      (htype.fits rfl).ne_null rfl, (hflag.fits rfl).ne_null rfl,
      (hversion.fits rfl).ne_null rfl, by simp⟩
  · rintro ⟨hname, hdescription, htype, hflag, hversion, -⟩
    have hlist : Fits Forms.form (.list (.form .templateSection)) t.sections.toValue := by
      rw [hknown]
      refine .list ?_
      intro v hv
      obtain ⟨s, hs, rfl⟩ := List.mem_map.mp hv
      exact hsections s hs
    have hcreator : Slot.Takes Forms.form (.optional "created_by" .ident) t.createdBy :=
      ⟨fun _ => rfl, h.createdBy.resolve_left⟩
    exact ⟨rfl, h.name.takes hname, h.description.takes hdescription, h.category.takes htype,
      h.isDefault.takes hflag, hcreator, h.version.takes hversion, .of_fits h.id rfl,
      .of_fits hlist rfl, .of_fits h.bindings rfl, .of_fits h.createdAt rfl,
      .of_fits h.updatedAt rfl, by simp⟩

end Scriptorium.Template
