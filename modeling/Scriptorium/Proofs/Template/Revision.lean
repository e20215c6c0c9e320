import Scriptorium.Api.Templates
import Scriptorium.Proofs.Template.Declared
import Scriptorium.Proofs.Web.Arguments
set_option autoImplicit false

/-!
# Updates of templates

Through the routes an update gives at most five fields, each once.  It stores these and the time,
and keeps everything else.  So templates whose fields hold what they should stay such templates, and
stay filled if the update gives nothing to no field.
-/

namespace Scriptorium.Template

open Schema Web

/-! ## What updates give -/

/-- Fields of the form of updates, each at most once, with values of their types or nothing. -/
structure Changes [Halves] (changes : Fields) : Prop where
  once : (Fields.names changes).Nodup
  named : ∀ name ∈ Fields.names changes, name ∈ (Forms.fields .templateUpdate).map (·.name)
  typed : ∀ slot ∈ Forms.fields .templateUpdate, ∀ v,
    Fields.get? changes slot.name = some v → Holds slot.shape v

/-- What an update gives through the routes. -/
theorem changes_of_call [Halves] {captured : List (String × String)} {around : Surroundings}
    {request : Web.Request} {world : World} {call : Call}
    (h : Api.Templates.update.call? captured around request world = some call) :
    Changes (call.changes "template_data") := by
  have hfits := Endpoint.fits_body h rfl
    (by simp [Api.Templates.update, Api.Templates.ident, Slot.required])
  have hnodup := Forms.ownNames.nodup .templateUpdate (by decide)
  obtain ⟨hnames, htakes⟩ := (fits_record_iff hnodup _).mp hfits
  have hsub : (call.changes "template_data").Sublist (call.record "template_data") :=
    List.filter_sublist
  have honce : (Fields.names (call.record "template_data")).Nodup := hnames ▸ hnodup
  constructor
  · exact (hsub.map Prod.fst).nodup honce
  · intro name hname
    have hmem : name ∈ Fields.names (call.record "template_data") :=
      (hsub.map Prod.fst).subset hname
    exact hnames ▸ hmem
  · intro slot hslot v hget
    have hmem := hsub.subset (Fields.mem_of_get?_eq_some hget)
    have hheld := (htakes slot hslot).null_or_fits
    rwa [(Fields.get?_eq_some_iff_mem honce slot.name v).mpr hmem, Option.getD_some] at hheld

/-- A field that may be given holds values of its type or nothing, whether it is given or kept. -/
theorem Changes.holds [Halves] {changes : Fields} (h : Changes changes) (slot : Slot FormName)
    (hslot : slot ∈ Forms.fields .templateUpdate) {old : Value} (hold : Holds slot.shape old) :
    Holds slot.shape ((Fields.get? changes slot.name).getD old) := by
  cases hget : Fields.get? changes slot.name with
  | none => exact hold
  | some v => exact h.typed slot hslot v hget

/-! ## What updates store -/

/-- A template with what an update gives, and the time. -/
def revised (t : Template) (changes : Fields) (now : Stamp) : Template :=
  { t with
    name := (Fields.get? changes "name").getD t.name
    description := (Fields.get? changes "description").getD t.description
    category := ((Fields.get? changes "type").map .loose).getD t.category
    isDefault := (Fields.get? changes "is_default").getD t.isDefault
    version := (Fields.get? changes "version").getD t.version
    updatedAt := .stamp now }

theorem update_eq_revised [Halves] {changes : Fields} (h : Changes changes) (t : Template)
    (now : Stamp) :
    t.update changes now = t.revised changes now := by
  obtain ⟨honce, hnamed, -⟩ := h
  induction changes generalizing t with
  | nil => rfl
  | cons head rest ih =>
      obtain ⟨name, v⟩ := head
      obtain ⟨hfirst, hrest⟩ := List.nodup_cons.mp honce
      have hother : Fields.get? rest name = none := (Fields.get?_eq_none_iff rest name).mpr hfirst
      have hstep : t.update ((name, v) :: rest) now = (t.set name v).update rest now := rfl
      have hname := hnamed name List.mem_cons_self
      rw [hstep, ih _ hrest fun other hmem => hnamed other (List.mem_cons_of_mem _ hmem)]
      simp only [Forms.fields, Slot.optional, List.map_cons, List.map_nil, List.mem_cons,
        List.not_mem_nil, or_false] at hname
      rcases hname with rfl | rfl | rfl | rfl | rfl <;>
        simp [revised, set, Fields.get?_cons, hother]

section Revised

variable {t : Template} {changes : Fields} (now : Stamp)

theorem category_revised : (t.revised changes now).category.toValue =
    (Fields.get? changes "type").getD t.category.toValue := by
  cases hget : Fields.get? changes "type" <;> simp [revised, hget, Category.toValue]

/-- An update shows in the fields that it gives and in the time of the update, and nowhere else. -/
theorem get?_toFields_revised [Halves] (h : Changes changes) {name : String}
    (hname : name ≠ "updated_at") :
    Fields.get? (t.revised changes now).toFields name =
      (Fields.get? changes name).or (Fields.get? t.toFields name) := by
  by_cases hgiven : name ∈ (Forms.fields .templateUpdate).map (·.name)
  · simp only [Forms.fields, Slot.optional, List.map_cons, List.map_nil, List.mem_cons,
      List.not_mem_nil, or_false] at hgiven
    rcases hgiven with rfl | rfl | rfl | rfl | rfl <;>
      simp [toFields, Fields.get?_cons, category_revised, Option.or_some] <;> rfl
  · have hkept : Fields.get? changes name = none :=
      (Fields.get?_eq_none_iff changes name).mpr fun hmem => hgiven (h.named name hmem)
    simp only [Forms.fields, Slot.optional, List.map_cons, List.map_nil, List.mem_cons,
      List.not_mem_nil, or_false, not_or, eq_comm (a := name)] at hgiven
    simp [toFields, Fields.get?_cons, hkept, hgiven, Ne.symm hname, revised]

/-- Updated templates are of the declared types. -/
theorem Declared.revised [Halves] (ht : t.Declared) (h : Changes changes) :
    (t.revised changes now).Declared where
  id := ht.id
  name := h.holds (.optional "name" Forms.anyText) (by simp [Forms.fields]) ht.name
  description :=
    h.holds (.optional "description" Forms.anyText) (by simp [Forms.fields]) ht.description
  category := category_revised now ▸
    h.holds (.optional "type" (.member Forms.templateTypes)) (by simp [Forms.fields]) ht.category
  isDefault := h.holds (.optional "is_default" .truth) (by simp [Forms.fields]) ht.isDefault
  createdBy := ht.createdBy
  version := h.holds (.optional "version" Forms.anyText) (by simp [Forms.fields]) ht.version
  sections := ht.sections
  bindings := ht.bindings
  createdAt := ht.createdAt
  updatedAt := Forms.fits_stamp now

/-- Templates stay filled under updates that give nothing to no field. -/
theorem Filled.revised (ht : t.Filled) (h : ∀ entry ∈ changes, entry.2 ≠ .null) :
    (t.revised changes now).Filled := by
  have hkept : ∀ (name : String) {old : Value}, old ≠ .null →
      (Fields.get? changes name).getD old ≠ .null := by
    intro name old hold
    cases hget : Fields.get? changes name with
    | none => exact hold
    | some v => exact h (name, v) (Fields.mem_of_get?_eq_some hget)
  simp only [Filled, List.forall_mem_cons] at ht ⊢
  obtain ⟨hname, hdescription, htype, hflag, hversion, -⟩ := ht
  exact ⟨hkept "name" hname, hkept "description" hdescription,
    category_revised now ▸ hkept "type" htype, hkept "is_default" hflag,
    hkept "version" hversion, by simp⟩

end Revised

end Scriptorium.Template
