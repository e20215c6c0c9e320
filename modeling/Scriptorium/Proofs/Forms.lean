import Scriptorium.Forms
import Scriptorium.Proofs.Schema.Fits
set_option autoImplicit false

/-!
# What all forms have in common

Whatever stands in a field that is left out passes the field's own check.  All forms but those of
papers call their fields by their own names, and none has two fields of one name.  The forms of kept
papers take the names as well.  So what has passed the check against a form passes it again,
unchanged, except that three forms of papers do not find their free data again.
-/

namespace Scriptorium.Forms

open Schema

/-! ## Values of fields that are left out -/

/-- Whether a value is one that a shape gives to fields that are left out. -/
def isDefaultOf : Shape FormName → Value → Bool
  | .text 0 none, .text _ => true
  | .whole, .int _ => true
  | .real none none, .float _ => true
  | .truth, .bool _ => true
  | .member permitted, .text s => permitted.contains s
  | .list _, .list [] => true
  | .mapping _, .record [] => true
  | _, _ => false

/-- Whether a field that is left out gets what may stand in it. -/
def isSound (field : FormField) : Bool :=
  match field.fallback, field.shape with
  | .required, _ => true
  | .value .null, _ => field.takesNothing
  | .value v, shape => isDefaultOf shape v
  | .freshIdent, .ident => true
  | .freshText, .text 0 none => true
  | .now, .moment => true
  | _, _ => false

theorem fits_text [Halves] (s : String) : Fits form anyText (.text s) := .plain rfl rfl

theorem fits_ident [Halves] (i : Ident) : Fits form .ident (.ident i) := .plain rfl rfl

theorem fits_stamp [Halves] (t : Stamp) : Fits form .moment (.stamp t) := .plain rfl rfl

theorem fits_of_isDefaultOf [Halves] {shape : Shape FormName} {v : Value}
    (h : isDefaultOf shape v = true) :
    Fits form shape v := by
  unfold isDefaultOf at h
  split at h
  · exact fits_text _
  · exact .plain rfl rfl
  · exact .plain rfl rfl
  · exact .plain rfl rfl
  · refine .plain rfl ?_
    simp only [scalar, h, if_true]
  · exact .list (by simp)
  · exact .mapping List.nodup_nil (by simp)
  · cases h

theorem all_isSound (name : FormName) : (form name).fields.all isSound = true := by
  cases name <;> rfl

/-- What stands in a field that is left out passes the field's own check. -/
theorem defaultsFit [Halves] : DefaultsFit form := by
  intro name field hfield now taken v after hfill
  have hsound : isSound field = true := List.all_eq_true.mp (all_isSound name) field hfield
  unfold isSound at hsound
  split at hsound
  · rename_i hfallback
    simp [hfallback, Fallback.fill] at hfill
  · rename_i hfallback
    simp only [hfallback, Fallback.fill, Option.some.injEq, Prod.mk.injEq] at hfill
    exact ⟨fun _ => hsound, fun hne => absurd hfill.1.symm hne⟩
  · rename_i given hne hfallback
    simp only [hfallback, Fallback.fill, Option.some.injEq, Prod.mk.injEq] at hfill
    obtain ⟨rfl, rfl⟩ := hfill
    exact ⟨fun hnull => absurd hnull hne, fun _ => fits_of_isDefaultOf hsound⟩
  · rename_i hfallback hshape
    simp only [hfallback, Fallback.fill, Option.some.injEq, Prod.mk.injEq] at hfill
    obtain ⟨rfl, rfl⟩ := hfill
    exact ⟨by simp, fun _ => hshape ▸ fits_ident _⟩
  · rename_i hfallback hshape
    simp only [hfallback, Fallback.fill, Option.some.injEq, Prod.mk.injEq] at hfill
    obtain ⟨rfl, rfl⟩ := hfill
    exact ⟨by simp, fun _ => hshape ▸ fits_text _⟩
  · rename_i hfallback hshape
    simp only [hfallback, Fallback.fill, Option.some.injEq, Prod.mk.injEq] at hfill
    obtain ⟨rfl, rfl⟩ := hfill
    exact ⟨by simp, fun _ => hshape ▸ fits_stamp _⟩
  · cases hsound

/-- Checked data fits. -/
theorem fits_of_checked [Halves] {name : FormName} {about : String} {now : Stamp}
    {data fields : Fields}
    {taken after : Nat} (h : checked name about now data taken = .ok (fields, after)) :
    Fits form (.form name) (.record fields) := by
  unfold checked at h
  split at h
  · rename_i hnamed
    obtain rfl := Except.ok.inj h
    exact fits_of_checkNamed defaultsFit hnamed
  · cases h

/-! ## Names of fields -/

/-- Forms that call a field differently in the data, or have such forms inside. -/
def renamed : List FormName :=
  [.paperBase, .paperCreate, .paperUpdate, .paperStored, .paper, .paperWithProject,
    .projectWithPapers]

/-- Whether a field is called by its own name and has no form inside that calls one differently. -/
def isOwn (field : FormField) : Bool :=
  field.key == field.name && field.shape.inner?.all fun name => !renamed.contains name

theorem all_isOwn {name : FormName} (h : name ∉ renamed) :
    (form name).fields.all isOwn = true := by
  revert h
  cases name <;> decide

theorem nodup_names (name : FormName) : ((form name).fields.map (·.name)).Nodup := by
  cases name <;> decide

theorem ownNames : OwnNames form (· ∉ renamed) where
  key name hname field hfield := by
    have hown := List.all_eq_true.mp (all_isOwn hname) field hfield
    simp only [isOwn, Bool.and_eq_true, beq_iff_eq] at hown
    exact hown.1
  nodup name _ := nodup_names name
  inner name hname field hfield inner hinner := by
    have hown := List.all_eq_true.mp (all_isOwn hname) field hfield
    simp only [isOwn, hinner, Option.all_some, Bool.and_eq_true, Bool.not_eq_true',
      List.contains_eq_mem, decide_eq_false_iff_not] at hown
    exact hown.2

/-! ## Checking again -/

/-- Forms that do not find a paper's free data in the records that they make. -/
def forgetful : List FormName := [.paperBase, .paperCreate, .paperUpdate]

/-- What stands for a paper's free data that are not found. -/
def forgotten : FormName → Value
  | .paperUpdate => .null
  | _ => .record []

/-- What becomes of the record of a form when it is checked again. -/
def again (name : FormName) (fields : Fields) : Fields :=
  if name ∈ forgetful then Fields.put fields "metadata_" (forgotten name) else fields

/-- No forgetful form is inside another one. -/
theorem within_forgetful (name : FormName) :
    ∀ field ∈ (form name).fields, field.shape.Within (· ∉ forgetful) := by
  have hall : (form name).fields.all (fun field =>
      field.shape.inner?.all fun inner => !forgetful.contains inner) = true := by
    cases name <;> decide
  intro field hfield inner hinner
  have hfield := List.all_eq_true.mp hall field hfield
  simpa [hinner] using hfield

/-- All other forms find their fields. -/
theorem findsOwn : FindsOwn form (· ∉ forgetful) where
  finds name hname field hfield := by
    have hall : (form name).fields.all (form name).finds = true := by
      revert hname
      cases name <;> decide
    exact List.all_eq_true.mp hall field hfield
  nodup name _ := nodup_names name
  inner name _ := within_forgetful name

/-- In a forgetful form the free data stand among fields that are called by their own names. -/
theorem fields_of_forgetful {name : FormName} (hname : name ∈ forgetful) :
    ∃ front back, fields name = front ++ paperData (forgotten name) :: back ∧
      (front ++ back).all (fun field => field.key == field.name && field.name != "metadata_") ∧
      "metadata" ∉ (fields name).map (·.name) := by
  simp only [forgetful, List.mem_cons, List.not_mem_nil, or_false] at hname
  rcases hname with rfl | rfl | rfl
  · exact ⟨paperBase.take 3, [], rfl, by decide, by decide⟩
  · exact ⟨paperBase.take 3, [.required "project_id" .whole], rfl, by decide, by decide⟩
  · exact ⟨(fields .paperUpdate).take 3, [], rfl, by decide, by decide⟩

/-- What a forgetful form does with its fields: the free data are left out, all others are found. -/
theorem forgets_or_finds {name : FormName} (hname : name ∈ forgetful) {field : FormField}
    (hfield : field ∈ (form name).fields) :
    (field.name = "metadata_" ∧ field.key ∉ (form name).fields.map (·.name) ∧
        field.fallback = .value (forgotten name)) ∨
      field.name ≠ "metadata_" ∧ (form name).finds field = true := by
  obtain ⟨front, back, hfields, hall, hkey⟩ := fields_of_forgetful hname
  have hplace : field = paperData (forgotten name) ∨ field ∈ front ++ back := by
    have hmem : field ∈ front ++ paperData (forgotten name) :: back := hfields ▸ hfield
    simp only [List.mem_append, List.mem_cons] at hmem ⊢
    rcases hmem with hfront | hdata | hback
    · exact .inr (.inl hfront)
    · exact .inl hdata
    · exact .inr (.inr hback)
  rcases hplace with rfl | hother
  · exact .inl ⟨rfl, hkey, rfl⟩
  · have hown := List.all_eq_true.mp hall field hother
    simp only [Bool.and_eq_true, beq_iff_eq, bne_iff_ne] at hown
    exact .inr ⟨hown.2, by simp [Form.finds, hown.1]⟩

theorem takesNames_of_forgetful {name : FormName} (hname : name ∈ forgetful) :
    takesNames name = false := by
  simp only [forgetful, List.mem_cons, List.not_mem_nil, or_false] at hname
  rcases hname with rfl | rfl | rfl <;> rfl

theorem finds_of_not_lost {name : FormName} {field : FormField}
    (hfield : field ∈ (form name).fields)
    (hlost : ¬(name ∈ forgetful ∧ field.name = "metadata_")) : (form name).finds field = true := by
  by_cases hname : name ∈ forgetful
  · rcases forgets_or_finds hname hfield with ⟨hdata, -, -⟩ | ⟨-, hfinds⟩
    · exact absurd ⟨hname, hdata⟩ hlost
    · exact hfinds
  · exact findsOwn.finds name hname field hfield

/-- What a field holds when its record is checked again. -/
def heldAgain (name : FormName) (kept : Fields) (field : FormField) : Value :=
  if name ∈ forgetful ∧ field.name = "metadata_" then forgotten name
  else (Fields.get? kept field.name).getD .null

/-- Fields that are checked again, one by one. -/
theorem again_eq_map {name : FormName} {kept : Fields}
    (hnames : Fields.names kept = (form name).fields.map (·.name)) :
    again name kept =
      (form name).fields.map fun field => (field.name, heldAgain name kept field) := by
  have hitself := eq_map_of_names hnames (nodup_names name)
  by_cases hname : name ∈ forgetful
  · have hmem : "metadata_" ∈ Fields.names kept := by
      obtain ⟨front, back, hfields, -, -⟩ := fields_of_forgetful hname
      rw [hnames, form, hfields]
      simp [paperData, Slot.defaulted, Slot.orNothing, Slot.called]
    have hnodup : (Fields.names kept).Nodup := hnames ▸ nodup_names name
    rw [again, if_pos hname, Fields.put_eq_map hnodup hmem]
    refine (congrArg (List.map _) hitself).trans ?_
    rw [List.map_map]
    apply List.map_congr_left
    intro field hfield
    simp [heldAgain, hname]
  · simp only [again, heldAgain, hname, if_false, false_and]
    exact hitself

/-- What was checked once is accepted again, and what then stands in its fields. -/
theorem checkNamed_again [Halves] {name : FormName} {kept : Fields}
    (h : Fits form (.form name) (.record kept)) (now : Stamp) (taken : Nat) :
    checkNamed form now name kept taken = .ok (again name kept, taken) := by
  obtain ⟨hnames, htakes⟩ := (fits_record_iff (nodup_names name) kept).mp h
  rw [again_eq_map hnames, checkNamed, checkParts, fuelFor]
  refine checkForm_eq_map (heldAgain name kept) ?_ [] taken
  intro field hfield
  by_cases hlost : name ∈ forgetful ∧ field.name = "metadata_"
  · rw [heldAgain, if_pos hlost]
    rcases forgets_or_finds hlost.1 hfield with ⟨-, hkey, hfallback⟩ | ⟨hother, -⟩
    · exact .inr ⟨given?_of_not_mem hnames hkey (takesNames_of_forgetful hlost.1), hfallback⟩
    · exact absurd hlost.2 hother
  · rw [heldAgain, if_neg hlost]
    obtain ⟨v, hget⟩ : ∃ v, Fields.get? kept field.name = some v := by
      rw [← Fields.mem_names_iff, hnames]
      exact List.mem_map.mpr ⟨field, hfield, rfl⟩
    have hdepth : v.depth ≤ Value.depthFields kept :=
      Value.depth_le_depthFields (Fields.mem_of_get?_eq_some hget)
    have htaken := htakes field hfield
    rw [hget, Option.getD_some] at htaken ⊢
    refine .inl ⟨given?_of_finds hnames (finds_of_not_lost hfield hlost) hget, htaken.1, ?_⟩
    intro hne place taken
    have hless : 2 * v.depth < 3 * (Value.record kept).depth + 2 + 1 := by
      rw [Value.depth]
      omega
    exact checkShape_of_fits findsOwn (htaken.2 hne) (within_forgetful name field hfield) hless
      place taken

/-- What a form accepts it accepts again as it came out, and nothing is lost but the free data of
papers: three forms fill them as if they had been left out, so that they stay as they are just if
they are what stands there then. -/
theorem checked_again_loses_paper_data [Halves] {name : FormName} {now : Stamp}
    {parts kept : Fields}
    {taken after : Nat} (h : checkNamed form now name parts taken = .ok (kept, after))
    (later : Stamp) (used : Nat) :
    checkNamed form later name kept used = .ok (again name kept, used) ∧
      (again name kept = kept ↔
        (name ∈ forgetful → Fields.get? kept "metadata_" = some (forgotten name))) := by
  refine ⟨checkNamed_again (fits_of_checkNamed defaultsFit h) later used, ?_⟩
  by_cases hname : name ∈ forgetful
  · rw [again, if_pos hname]
    constructor
    · intro hsame _
      rw [← hsame, Fields.get?_put_self]
    · intro hheld
      exact Fields.put_of_get?_eq_some (hheld hname)
  · rw [again, if_neg hname]
    exact ⟨fun _ hforgetful => absurd hforgetful hname, fun _ => rfl⟩

section

open scoped Halves.Plain

/-- A paper that brings no free data is the same when it is checked again. -/
theorem checked_again_without_paper_data :
    let kept := [("title", Value.text "Plan"), ("content", .null), ("document_type", .text "other"),
      ("metadata_", .record []), ("project_id", .int 1)]
    checkNamed form default .paperCreate
        [("title", .text "Plan"), ("project_id", .bool true)] 0 = .ok (kept, 0) ∧
      checkNamed form default .paperCreate kept 0 = .ok (kept, 0) := by
  intro kept
  have hchecked : checkNamed form default .paperCreate
      [("title", .text "Plan"), ("project_id", .bool true)] 0 = .ok (kept, 0) := by rfl
  obtain ⟨hagain, hsame⟩ := checked_again_loses_paper_data hchecked default 0
  rw [hsame.mpr fun _ => rfl] at hagain
  exact ⟨hchecked, hagain⟩

/-- The free data of a paper are gone when it is checked again. -/
theorem paper_data_lost :
    ∃ kept lost, checkNamed form default .paperBase
        [("title", .text "Plan"), ("metadata", .record [("a", .int 1)])] 0 = .ok (kept, 0) ∧
      checkNamed form default .paperBase kept 0 = .ok (lost, 0) ∧
      Fields.get? kept "metadata_" = some (.record [("a", .int 1)]) ∧
      Fields.get? lost "metadata_" = some (.record []) ∧ lost ≠ kept := by
  refine ⟨[("title", .text "Plan"), ("content", .null), ("document_type", .text "other"),
      ("metadata_", .record [("a", .int 1)])],
    [("title", .text "Plan"), ("content", .null), ("document_type", .text "other"),
      ("metadata_", .record [])], rfl, rfl, rfl, rfl, ?_⟩
  simp

end

end Scriptorium.Forms
