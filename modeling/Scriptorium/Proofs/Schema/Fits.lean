import Scriptorium.Forms
import Scriptorium.Proofs.Fields
import Scriptorium.Proofs.Outcome
import Scriptorium.Proofs.Schema.Form
set_option autoImplicit false

/-!
# Data that fits a shape

`Fits` says what data of a shape looks like, without saying how it is checked.  What checking gives
fits, if the values that stand for fields that are left out fit.  Data that fits passes the check
unchanged, if its forms find every field under its own name.  So checking twice is checking once.
-/

namespace Scriptorium

namespace Value

theorem depth_le_depthItems {v : Value} {items : List Value} (h : v ∈ items) :
    v.depth ≤ depthItems items := by
  induction items with
  | nil => cases h
  | cons item rest ih =>
      rw [depthItems]
      rcases List.mem_cons.mp h with rfl | hrest
      · exact Nat.le_max_left _ _
      · exact Nat.le_trans (ih hrest) (Nat.le_max_right _ _)

theorem depth_le_depthFields {entry : String × Value} {fields : Fields} (h : entry ∈ fields) :
    entry.2.depth ≤ depthFields fields := by
  induction fields with
  | nil => cases h
  | cons head rest ih =>
      rw [depthFields]
      rcases List.mem_cons.mp h with rfl | hrest
      · exact Nat.le_max_left _ _
      · exact Nat.le_trans (ih hrest) (Nat.le_max_right _ _)

end Value

namespace Schema

open Outcome

variable {μ : Type}

/-! ## Shapes and fields -/

/-- Whether the data of a shape has no parts. -/
def Shape.isPlain : Shape μ → Bool
  | .anything | .list _ | .mapping _ | .table | .form _ => false
  | _ => true

/-- The form inside a shape. -/
def Shape.inner? : Shape μ → Option μ
  | .list item => item.inner?
  | .mapping value => value.inner?
  | .form name => some name
  | _ => none

/-- The form inside a shape, if there is one, has a property. -/
def Shape.Within (P : μ → Prop) (shape : Shape μ) : Prop :=
  ∀ name, shape.inner? = some name → P name

/-- Whether nothing may stand in a field. -/
def Slot.takesNothing (field : Slot μ) : Bool := field.mayBeNothing || field.shape.takesNothing

/-- The data of a shape.  The fields of a form stand in its order. -/
inductive Fits [Halves] (forms : μ → Form μ) : Shape μ → Value → Prop
  | anything (v : Value) : Fits forms .anything v
  | plain {shape : Shape μ} {v : Value} (hplain : shape.isPlain = true)
      (hself : scalar shape v = .ok v) : Fits forms shape v
  | list {item : Shape μ} {items : List Value} (hitems : ∀ v ∈ items, Fits forms item v) :
      Fits forms (.list item) (.list items)
  | mapping {value : Shape μ} {fields : Fields} (hnodup : (Fields.names fields).Nodup)
      (hvalues : ∀ entry ∈ fields, Fits forms value entry.2) :
      Fits forms (.mapping value) (.record fields)
  | table {fields : Fields} (hnodup : (Fields.names fields).Nodup) :
      Fits forms .table (.record fields)
  | form {name : μ} {fields : Fields}
      (hnames : Fields.names fields = (forms name).fields.map (·.name))
      (hnothing : ∀ pair ∈ (forms name).fields.zip fields,
        pair.2.2 = .null → pair.1.takesNothing = true)
      (hvalues : ∀ pair ∈ (forms name).fields.zip fields,
        pair.2.2 ≠ .null → Fits forms pair.1.shape pair.2.2) :
      Fits forms (.form name) (.record fields)

/-- A field takes nothing where nothing may stand, and else what fits its shape. -/
def Slot.Takes [Halves] (forms : μ → Form μ) (slot : Slot μ) (v : Value) : Prop :=
  (v = .null → slot.takesNothing = true) ∧ (v ≠ .null → Fits forms slot.shape v)

theorem Slot.Takes.fits [Halves] {forms : μ → Form μ} {slot : Slot μ} {v : Value}
    (h : slot.Takes forms v) (hneeded : slot.takesNothing = false) : Fits forms slot.shape v := by
  refine h.2 ?_
  intro hnull
  rw [h.1 hnull] at hneeded
  cases hneeded

theorem Slot.Takes.null_or_fits [Halves] {forms : μ → Form μ} {slot : Slot μ} {v : Value}
    (h : slot.Takes forms v) : v = .null ∨ Fits forms slot.shape v := by
  by_cases hnull : v = .null
  · exact .inl hnull
  · exact .inr (h.2 hnull)

theorem eq_of_boundText {least : Nat} {most : Option Nat} {s t : String}
    (h : boundText least most s = .ok t) : s = t := by
  unfold boundText at h
  split at h
  · cases h
  · split at h
    · split at h
      · cases h
      · exact Except.ok.inj h
    · exact Except.ok.inj h

theorem eq_of_boundReal {least most : Option Int} {x y : Float}
    (h : boundReal least most x = .ok y) : x = y := by
  simp only [boundReal, bind, Except.bind, pure, Except.pure, throw, throwThe,
    MonadExceptOf.throw] at h
  repeat' split at h
  all_goals first | exact Except.ok.inj h | cases h

/-- Scalars that have been checked once pass again, unchanged. -/
theorem scalar_of_scalar [Halves] {shape : Shape μ} {v w : Value} (hplain : shape.isPlain = true)
    (h : scalar shape v = .ok w) : scalar shape w = .ok w := by
  cases shape with
  | anything | list | mapping | table | form => simp [Shape.isPlain] at hplain
  | text least most =>
      simp only [scalar, bind, Except.bind, pure, Except.pure] at h
      split at h
      · cases h
      · rename_i s _
        split at h
        · cases h
        · rename_i t hbound
          obtain rfl := Except.ok.inj h
          obtain rfl := eq_of_boundText hbound
          simp only [scalar, asText, hbound, bind, Except.bind, pure, Except.pure]
  | starting word =>
      simp only [scalar, bind, Except.bind, pure, Except.pure] at h
      split at h
      · cases h
      · split at h
        · rename_i hstarts
          obtain rfl := Except.ok.inj h
          simp only [scalar, asText, bind, Except.bind, pure, Except.pure, hstarts, if_true]
        · cases h
  | whole =>
      simp only [scalar, Functor.map, Except.map] at h
      split at h
      · cases h
      · obtain rfl := Except.ok.inj h
        rfl
  | real least most =>
      simp only [scalar, bind, Except.bind, pure, Except.pure] at h
      split at h
      · cases h
      · rename_i x _
        split at h
        · cases h
        · rename_i y hbound
          obtain rfl := Except.ok.inj h
          obtain rfl := eq_of_boundReal hbound
          simp only [scalar, asReal, hbound, bind, Except.bind, pure, Except.pure]
  | truth =>
      simp only [scalar, Functor.map, Except.map] at h
      split at h
      · cases h
      · obtain rfl := Except.ok.inj h
        rfl
  | member permitted =>
      have hsame : v = w := by
        simp only [scalar] at h
        split at h
        · split at h
          · exact Except.ok.inj h
          · cases h
        · cases h
      exact hsame ▸ h
  | constant permitted =>
      have hsame : v = w := by
        simp only [scalar] at h
        split at h
        · split at h
          · exact Except.ok.inj h
          · cases h
        · split at h <;> cases h
      exact hsame ▸ h
  | ident =>
      simp only [scalar, Functor.map, Except.map] at h
      split at h
      · cases h
      · obtain rfl := Except.ok.inj h
        rfl
  | moment =>
      simp only [scalar, Functor.map, Except.map] at h
      split at h
      · cases h
      · obtain rfl := Except.ok.inj h
        rfl

theorem scalar_null [Halves] {shape : Shape μ} (hplain : shape.isPlain = true) (w : Value) :
    scalar shape .null ≠ .ok w := by
  cases shape with
  | anything | list | mapping | table | form => simp [Shape.isPlain] at hplain
  | _ => rintro ⟨⟩

/-- Nothing fits where data is asked for. -/
theorem Fits.ne_null [Halves] {forms : μ → Form μ} {shape : Shape μ} {v : Value}
    (h : Fits forms shape v) (hshape : shape.takesNothing = false) : v ≠ .null := by
  cases h with
  | anything => simp [Shape.takesNothing] at hshape
  | plain hplain hself =>
      rintro rfl
      exact scalar_null hplain _ hself
  | list | mapping | table | form => simp

theorem Slot.Takes.of_fits [Halves] {forms : μ → Form μ} {slot : Slot μ} {v : Value}
    (h : Fits forms slot.shape v) (hshape : slot.shape.takesNothing = false) :
    slot.Takes forms v :=
  ⟨fun hnull => absurd hnull (h.ne_null hshape), fun _ => h⟩

/-! ## What fits where no form is asked for -/

section Inversion

variable {forms : μ → Form μ} {v : Value}

theorem Fits.scalar_eq [Halves] {shape : Shape μ} (h : Fits forms shape v)
    (hplain : shape.isPlain = true) :
    scalar shape v = .ok v := by
  cases h with
  | plain _ hself => exact hself
  | _ => simp [Shape.isPlain] at hplain

theorem Fits.eq_text [Halves] {least : Nat} {most : Option Nat}
    (h : Fits forms (.text least most) v) :
    ∃ s, v = .text s := by
  have hself := h.scalar_eq rfl
  simp only [scalar, bind_eq_ok_iff, pure_eq_ok_iff] at hself
  obtain ⟨-, -, s, -, hv⟩ := hself
  exact ⟨s, hv.symm⟩

theorem Fits.eq_int [Halves] (h : Fits forms .whole v) : ∃ n, v = .int n := by
  have hself := h.scalar_eq rfl
  simp only [scalar, map_eq_ok_iff] at hself
  obtain ⟨n, -, hv⟩ := hself
  exact ⟨n, hv.symm⟩

theorem Fits.eq_bool [Halves] (h : Fits forms .truth v) : ∃ b, v = .bool b := by
  have hself := h.scalar_eq rfl
  simp only [scalar, map_eq_ok_iff] at hself
  obtain ⟨b, -, hv⟩ := hself
  exact ⟨b, hv.symm⟩

theorem Fits.eq_ident [Halves] (h : Fits forms .ident v) : ∃ i, v = .ident i := by
  have hself := h.scalar_eq rfl
  simp only [scalar, map_eq_ok_iff] at hself
  obtain ⟨i, -, hv⟩ := hself
  exact ⟨i, hv.symm⟩

theorem Fits.eq_member [Halves] {permitted : List String} (h : Fits forms (.member permitted) v) :
    ∃ s ∈ permitted, v = .text s := by
  have hself := h.scalar_eq rfl
  cases v with
  | text s =>
      simp only [scalar] at hself
      split at hself
      · rename_i hs
        exact ⟨s, by simpa using hs, rfl⟩
      · cases hself
  | _ => simp [scalar] at hself

theorem Fits.eq_constant [Halves] {permitted : List String}
    (h : Fits forms (.constant permitted) v) :
    ∃ s ∈ permitted, v = .text s := by
  have hself := h.scalar_eq rfl
  cases v with
  | text s =>
      simp only [scalar] at hself
      split at hself
      · rename_i hs
        exact ⟨s, by simpa using hs, rfl⟩
      · cases hself
  | _ => simp [scalar, Value.isScalar] at hself

theorem Fits.eq_list [Halves] {item : Shape μ} (h : Fits forms (.list item) v) :
    ∃ items, v = .list items ∧ ∀ x ∈ items, Fits forms item x := by
  cases h with
  | plain hplain => simp [Shape.isPlain] at hplain
  | list hitems => exact ⟨_, rfl, hitems⟩

theorem Fits.eq_record [Halves] {name : μ} (h : Fits forms (.form name) v) :
    ∃ fields, v = .record fields ∧ Fields.names fields = (forms name).fields.map (·.name) := by
  cases h with
  | plain hplain => simp [Shape.isPlain] at hplain
  | form hnames => exact ⟨_, rfl, hnames⟩

end Inversion

/-! ## Results one by one -/

section Gather

variable {α β : Type} {check : α → Nat → Checked β}

/-- The results that are collected come from what was checked, one from each. -/
theorem check_of_mem_zip_gather {xs : List α} {taken : Nat} {result : List β × Nat}
    (h : gather check xs taken = .ok result) :
    result.1.length = xs.length ∧
      ∀ pair ∈ xs.zip result.1, ∃ before after, check pair.1 before = .ok (pair.2, after) := by
  induction xs generalizing taken result with
  | nil =>
      obtain rfl := Except.ok.inj h
      simp
  | cons x rest ih =>
      unfold gather at h
      cases hx : check x taken with
      | error findings =>
          simp only [hx] at h
          split at h <;> cases h
      | ok first =>
          simp only [hx] at h
          cases hrest : gather check rest first.2 with
          | error findings => simp [hrest] at h
          | ok later =>
              simp only [hrest] at h
              obtain rfl := Except.ok.inj h
              obtain ⟨hlength, hpairs⟩ := ih hrest
              refine ⟨by simp [hlength], ?_⟩
              intro pair hpair
              rcases List.mem_cons.mp hpair with rfl | hpair
              · exact ⟨taken, first.2, hx⟩
              · exact hpairs pair hpair

theorem exists_mem_zip_of_mem {xs : List α} {ys : List β} (hlength : ys.length = xs.length) {y : β}
    (hy : y ∈ ys) : ∃ x, (x, y) ∈ xs.zip ys := by
  obtain ⟨i, hi, rfl⟩ := List.getElem_of_mem hy
  refine ⟨xs[i], ?_⟩
  rw [← List.getElem_zip (h := by simp; omega)]
  exact List.getElem_mem _

/-- What is checked passes, if the collection does. -/
theorem check_of_mem {xs : List α} {taken : Nat} {result : List β × Nat}
    (h : gather check xs taken = .ok result) {x : α} (hx : x ∈ xs) :
    ∃ before after y, check x before = .ok (y, after) := by
  obtain ⟨hlength, hpairs⟩ := check_of_mem_zip_gather h
  obtain ⟨i, hi, rfl⟩ := List.getElem_of_mem hx
  have hpair : (xs[i], result.1[i]) ∈ xs.zip result.1 := by
    rw [← List.getElem_zip (h := by simp; omega)]
    exact List.getElem_mem _
  obtain ⟨before, after, hchecked⟩ := hpairs _ hpair
  exact ⟨before, after, _, hchecked⟩

/-- If every check is good and takes no identifier, so is the collection. -/
theorem gather_eq_map (f : α → β) {xs : List α}
    (h : ∀ x ∈ xs, ∀ taken, check x taken = .ok (f x, taken)) (taken : Nat) :
    gather check xs taken = .ok (xs.map f, taken) := by
  induction xs with
  | nil => rfl
  | cons x rest ih =>
      have hrest := ih fun y hy => h y (List.mem_cons_of_mem x hy)
      simp only [gather, h x List.mem_cons_self, hrest, List.map_cons]

end Gather

/-! ## What checking gives -/

/-- Every value that stands for a field that is left out may stand in the field. -/
def DefaultsFit [Halves] (forms : μ → Form μ) : Prop :=
  ∀ name, ∀ field ∈ (forms name).fields, ∀ now taken v after,
    field.fallback.fill now taken = some (v, after) →
      (v = .null → field.takesNothing = true) ∧ (v ≠ .null → Fits forms field.shape v)

section Check

variable {forms : μ → Form μ} {now : Stamp}

theorem checkValue_of_ne_null [Halves] {v : Value} (h : v ≠ .null) (fuel : Nat) (shape : Shape μ)
    (place : List Value) (taken : Nat) :
    checkValue forms now (fuel + 1) shape place v taken =
      checkShape forms now fuel shape place v taken := by
  rw [checkValue]
  exact h

/-- The fields of a checked form hold what fits, if what the fields are checked by gives it. -/
theorem fits_of_fields [Halves] {fuel : Nat} (hdefaults : DefaultsFit forms)
    (hshape : ∀ shape place v taken w after,
      checkShape forms now fuel shape place v taken = .ok (w, after) → Fits forms shape w)
    (hvalue : ∀ shape place v taken w after,
      checkValue forms now fuel shape place v taken = .ok (w, after) → Fits forms shape w)
    {name : μ} {place : List Value} {parts : Fields} {taken : Nat} {result : Fields × Nat}
    (h : checkForm forms now (fuel + 1) (forms name) place parts taken = .ok result) :
    Fits forms (.form name) (.record result.1) := by
  have hnames := names_checkForm h
  rw [checkForm] at h
  obtain ⟨-, hpairs⟩ := check_of_mem_zip_gather h
  have hentry : ∀ pair ∈ (forms name).fields.zip result.1,
      (pair.2.2 = .null → pair.1.takesNothing = true) ∧
        (pair.2.2 ≠ .null → Fits forms pair.1.shape pair.2.2) := by
    rintro ⟨field, entry⟩ hpair
    obtain ⟨before, after, hchecked⟩ := hpairs _ hpair
    have hfield : field ∈ (forms name).fields := (List.of_mem_zip hpair).1
    have hfits : Fits forms field.shape entry.2 →
        (entry.2 = .null → field.takesNothing = true) ∧
          (entry.2 ≠ .null → Fits forms field.shape entry.2) := by
      intro hentry
      refine ⟨?_, fun _ => hentry⟩
      intro hnull
      by_cases htakes : field.shape.takesNothing = true
      · simp [Slot.takesNothing, htakes]
      · exact absurd hnull (hentry.ne_null (by simpa using htakes))
    simp only at hchecked
    split at hchecked
    · split at hchecked
      · rename_i hfill
        simp only [Except.ok.injEq, Prod.mk.injEq] at hchecked
        obtain ⟨rfl, rfl⟩ := hchecked
        exact hdefaults name field hfield _ _ _ _ hfill
      · simp [complain] at hchecked
    · split at hchecked
      · rename_i hnothing
        simp only [Except.ok.injEq, Prod.mk.injEq] at hchecked
        obtain ⟨rfl, rfl⟩ := hchecked
        exact ⟨fun _ => by simp [Slot.takesNothing, hnothing], fun hne => absurd rfl hne⟩
      · split at hchecked
        · rename_i hvalued
          simp only [Except.ok.injEq, Prod.mk.injEq] at hchecked
          obtain ⟨rfl, rfl⟩ := hchecked
          exact hfits (hvalue _ _ _ _ _ _ hvalued)
        · cases hchecked
    · split at hchecked
      · rename_i hshaped
        simp only [Except.ok.injEq, Prod.mk.injEq] at hchecked
        obtain ⟨rfl, rfl⟩ := hchecked
        exact hfits (hshape _ _ _ _ _ _ hshaped)
      · cases hchecked
  exact .form hnames (fun pair hpair => (hentry pair hpair).1)
    (fun pair hpair => (hentry pair hpair).2)

theorem fits_of_items [Halves] {fuel : Nat} {item : Shape μ}
    (hvalue : ∀ shape place v taken w after,
      checkValue forms now fuel shape place v taken = .ok (w, after) → Fits forms shape w)
    {place : List Value} {items : List (Nat × Value)} {taken : Nat} {result : List Value × Nat}
    (h : gather (fun (i, x) taken =>
      checkValue forms now fuel item (place ++ [.int i]) x taken) items taken = .ok result) :
    Fits forms (.list item) (.list result.1) := by
  obtain ⟨hlength, hpairs⟩ := check_of_mem_zip_gather h
  refine .list ?_
  intro v hv
  obtain ⟨x, hpair⟩ := exists_mem_zip_of_mem hlength hv
  obtain ⟨before, after, hchecked⟩ := hpairs _ hpair
  exact hvalue _ _ _ _ _ _ hchecked

theorem fits_of_entries [Halves] {fuel : Nat} {value : Shape μ}
    (hvalue : ∀ shape place v taken w after,
      checkValue forms now fuel shape place v taken = .ok (w, after) → Fits forms shape w)
    {place : List Value} {entries : List (Value × Value)} {taken : Nat} {result : Fields × Nat}
    (h : gather (fun (k, x) taken =>
      match k with
      | .null => complain (place ++ [.text "__key__"]) .nothing
      | _ => match asText k with
        | .error complaint => complain (place ++ [.text "__key__"]) complaint
        | .ok name => match checkValue forms now fuel value (place ++ [k]) x taken with
          | .ok (y, taken) => .ok ((name, y), taken)
          | .error findings => .error findings) entries taken = .ok result) :
    Fits forms (.mapping value) (.record (Fields.merge [] result.1)) := by
  obtain ⟨hlength, hpairs⟩ := check_of_mem_zip_gather h
  refine .mapping (Fields.nodup_names_merge_nil _) ?_
  intro entry hentry
  have hmem : entry ∈ result.1 := by simpa using Fields.mem_merge hentry
  obtain ⟨⟨k, x⟩, hpair⟩ := exists_mem_zip_of_mem hlength hmem
  obtain ⟨before, after, hchecked⟩ := hpairs _ hpair
  simp only at hchecked
  split at hchecked
  · simp [complain] at hchecked
  · split at hchecked
    · simp [complain] at hchecked
    · split at hchecked
      · rename_i hvalued
        simp only [Except.ok.injEq, Prod.mk.injEq] at hchecked
        obtain ⟨rfl, rfl⟩ := hchecked
        exact hvalue _ _ _ _ _ _ hvalued
      · cases hchecked

/-- Whatever passes a check fits. -/
theorem fits_checked [Halves] (hdefaults : DefaultsFit forms) (fuel : Nat) :
    (∀ shape place v taken w after,
      checkShape forms now fuel shape place v taken = .ok (w, after) → Fits forms shape w) ∧
    (∀ shape place v taken w after,
      checkValue forms now fuel shape place v taken = .ok (w, after) → Fits forms shape w) ∧
    (∀ name place parts taken result,
      checkForm forms now fuel (forms name) place parts taken = .ok result →
        Fits forms (.form name) (.record result.1)) := by
  induction fuel with
  | zero =>
      refine ⟨?_, ?_, ?_⟩
      · intro shape place v taken w after h
        simp [checkShape, complain] at h
      · intro shape place v taken w after h
        simp [checkValue, complain] at h
      · intro name place parts taken result h
        simp [checkForm, complain] at h
  | succ fuel ih =>
      obtain ⟨hshape, hvalue, hform⟩ := ih
      refine ⟨?_, ?_, ?_⟩
      · intro shape place v taken w after h
        cases shape with
        | anything =>
            exact .anything w
        | list item =>
            simp only [checkShape] at h
            split at h
            · split at h
              · rename_i hgather
                simp only [Except.ok.injEq, Prod.mk.injEq] at h
                obtain ⟨rfl, rfl⟩ := h
                exact fits_of_items hvalue hgather
              · cases h
            · simp [complain] at h
        | mapping value =>
            simp only [checkShape] at h
            split at h
            · simp [complain] at h
            · split at h
              · rename_i hgather
                simp only [Except.ok.injEq, Prod.mk.injEq] at h
                obtain ⟨rfl, rfl⟩ := h
                exact fits_of_entries hvalue hgather
              · cases h
        | table =>
            simp only [checkShape] at h
            split at h
            · simp [complain] at h
            · simp only [Except.ok.injEq, Prod.mk.injEq] at h
              obtain ⟨rfl, rfl⟩ := h
              exact .table (Fields.nodup_names_merge_nil _)
        | form name =>
            simp only [checkShape] at h
            split at h
            · simp [complain] at h
            · split at h
              · rename_i hfields
                simp only [Except.ok.injEq, Prod.mk.injEq] at h
                obtain ⟨rfl, rfl⟩ := h
                exact hform _ _ _ _ _ hfields
              · cases h
        | _ =>
            simp only [checkShape] at h
            split at h
            · rename_i hscalar
              simp only [Except.ok.injEq, Prod.mk.injEq] at h
              obtain ⟨rfl, rfl⟩ := h
              exact .plain rfl (scalar_of_scalar rfl hscalar)
            · simp [complain] at h
      · intro shape place v taken w after h
        by_cases hnull : v = .null
        · subst hnull
          cases shape with
          | anything => exact .anything w
          | _ => simp [checkValue, Shape.takesNothing, complain] at h
        · rw [checkValue_of_ne_null hnull] at h
          exact hshape _ _ _ _ _ _ h
      · intro name place parts taken result h
        exact fits_of_fields hdefaults hshape hvalue h

/-- Nothing passes only where nothing may stand. -/
theorem takesNothing_of_checkForm [Halves] {fuel : Nat} {form : Form μ} {place : List Value}
    {parts : Fields} {taken : Nat} {result : Fields × Nat}
    (h : checkForm forms now fuel form place parts taken = .ok result) {field : Slot μ}
    (hfield : field ∈ form.fields) (hgiven : given? form field parts = some .null) :
    field.takesNothing = true := by
  cases fuel with
  | zero => simp [checkForm, complain] at h
  | succ fuel =>
      rw [checkForm] at h
      obtain ⟨before, after, entry, hchecked⟩ := check_of_mem h hfield
      simp only [hgiven] at hchecked
      cases hmay : field.mayBeNothing with
      | true => simp [Slot.takesNothing, hmay]
      | false =>
          cases hshape : field.shape.takesNothing with
          | true => simp [Slot.takesNothing, hshape]
          | false => cases fuel <;> simp [hmay, checkValue, hshape, complain] at hchecked

/-- A list of records passes only if each of them does. -/
theorem checkForm_of_checkAt_list [Halves] {name : μ} {place : List Value} {items : List Value}
    {taken : Nat} {result : Value × Nat}
    (h : checkAt forms now (.list (.form name)) place (.list items) taken = .ok result)
    {fields : Fields} (hmem : .record fields ∈ items) :
    ∃ fuel place taken result,
      checkForm forms now fuel (forms name) place fields taken = .ok result := by
  unfold checkAt fuelFor at h
  rw [checkValue_of_ne_null (by simp)] at h
  simp only [checkShape] at h
  split at h
  · rename_i hgather
    obtain ⟨i, hi, hitem⟩ := List.getElem_of_mem hmem
    have hindexed : (i, Value.record fields) ∈ items.mapIdx fun i x => (i, x) :=
      List.mem_mapIdx.mpr ⟨i, hi, by rw [hitem]⟩
    obtain ⟨before, after, v, hchecked⟩ := check_of_mem hgather hindexed
    simp only at hchecked
    rw [checkValue_of_ne_null (by simp)] at hchecked
    simp only [checkShape, partsOf] at hchecked
    split at hchecked
    · rename_i hform
      exact ⟨_, _, _, _, hform⟩
    · cases hchecked
  · cases h

theorem fits_of_checkNamed [Halves] (hdefaults : DefaultsFit forms) {name : μ} {parts : Fields}
    {taken : Nat} {result : Fields × Nat}
    (h : checkNamed forms now name parts taken = .ok result) :
    Fits forms (.form name) (.record result.1) :=
  (fits_checked hdefaults _).2.2 _ _ _ _ _ h

theorem fits_of_checkAt [Halves] (hdefaults : DefaultsFit forms) {shape : Shape μ}
    {place : List Value} {v : Value} {taken : Nat} {result : Value × Nat}
    (h : checkAt forms now shape place v taken = .ok result) : Fits forms shape result.1 :=
  (fits_checked hdefaults _).2.1 _ _ _ _ _ _ h

end Check

/-! ## What passes unchanged -/

/-- Whether a form finds a field in the records that it makes: the field is called by its own name,
or may be, and no other field is named as the data call it. -/
def Form.finds (form : Form μ) (field : Slot μ) : Bool :=
  field.key == field.name || (form.takesNames && !(form.fields.map (·.name)).contains field.key)

/-- Forms of some kind, with all forms inside them, find each field in the records that they make,
and have no two fields of one name. -/
structure FindsOwn (forms : μ → Form μ) (P : μ → Prop) : Prop where
  finds : ∀ name, P name → ∀ field ∈ (forms name).fields, (forms name).finds field = true
  nodup : ∀ name, P name → ((forms name).fields.map (·.name)).Nodup
  inner : ∀ name, P name → ∀ field ∈ (forms name).fields, field.shape.Within P

/-- Forms of some kind, with all forms inside them, call each field by its own name, and no two
fields by one name. -/
structure OwnNames (forms : μ → Form μ) (P : μ → Prop) : Prop where
  key : ∀ name, P name → ∀ field ∈ (forms name).fields, field.key = field.name
  nodup : ∀ name, P name → ((forms name).fields.map (·.name)).Nodup
  inner : ∀ name, P name → ∀ field ∈ (forms name).fields, field.shape.Within P

theorem OwnNames.findsOwn {forms : μ → Form μ} {P : μ → Prop} (h : OwnNames forms P) :
    FindsOwn forms P where
  finds name hname field hfield := by simp [Form.finds, h.key name hname field hfield]
  nodup := h.nodup
  inner := h.inner

section Pass

variable {forms : μ → Form μ} {now : Stamp} {P : μ → Prop}

/-- Fields that stand in the order of a form are found by their names. -/
theorem zip_eq_map {slots : List (Slot μ)} {fields : Fields}
    (hnames : Fields.names fields = slots.map (·.name)) (hnodup : (slots.map (·.name)).Nodup) :
    slots.zip fields =
      slots.map fun slot => (slot, slot.name, (Fields.get? fields slot.name).getD .null) := by
  induction slots generalizing fields with
  | nil => rfl
  | cons slot rest ih =>
      cases fields with
      | nil => simp [Fields.names] at hnames
      | cons head tail =>
          obtain ⟨name, v⟩ := head
          simp only [Fields.names, List.map_cons, List.cons.injEq] at hnames
          obtain ⟨rfl, htail⟩ := hnames
          obtain ⟨hfirst, hrest⟩ := List.nodup_cons.mp hnodup
          have hothers : ∀ other ∈ rest,
              Fields.get? ((slot.name, v) :: tail) other.name = Fields.get? tail other.name := by
            intro other hother
            have hne : slot.name ≠ other.name := by
              intro heq
              exact hfirst (List.mem_map.mpr ⟨other, hother, heq.symm⟩)
            simp [Fields.get?, hne]
          have hhead : (Fields.get? ((slot.name, v) :: tail) slot.name).getD .null = v := by
            simp [Fields.get?]
          rw [List.zip_cons_cons, ih htail hrest, List.map_cons, hhead]
          refine congrArg _ (List.map_congr_left ?_)
          intro other hother
          rw [hothers other hother]

/-- Fields that stand in the order of a form are its names with what is found under them. -/
theorem eq_map_of_names {slots : List (Slot μ)} {fields : Fields}
    (hnames : Fields.names fields = slots.map (·.name)) (hnodup : (slots.map (·.name)).Nodup) :
    fields = slots.map fun slot => (slot.name, (Fields.get? fields slot.name).getD .null) := by
  have hlength : fields.length = slots.length := by
    simpa [Fields.names] using congrArg List.length hnames
  have hsecond := congrArg (List.map Prod.snd) (zip_eq_map hnames hnodup)
  rwa [List.map_snd_zip (Nat.le_of_eq hlength), List.map_map] at hsecond

/-- Records that fit a form have its fields in its order, with what the fields take. -/
theorem fits_record_iff [Halves] {name : μ} (hnodup : ((forms name).fields.map (·.name)).Nodup)
    (fields : Fields) :
    Fits forms (.form name) (.record fields) ↔
      Fields.names fields = (forms name).fields.map (·.name) ∧
        ∀ slot ∈ (forms name).fields,
          slot.Takes forms ((Fields.get? fields slot.name).getD .null) := by
  constructor
  · intro h
    cases h with
    | plain hplain => simp [Shape.isPlain] at hplain
    | form hnames hnothing hvalues =>
        refine ⟨hnames, ?_⟩
        intro slot hslot
        have hpair : (slot, slot.name, (Fields.get? fields slot.name).getD .null) ∈
            (forms name).fields.zip fields := by
          rw [zip_eq_map hnames hnodup]
          exact List.mem_map.mpr ⟨slot, hslot, rfl⟩
        exact ⟨hnothing _ hpair, hvalues _ hpair⟩
  · rintro ⟨hnames, htakes⟩
    have hpairs : ∀ pair ∈ (forms name).fields.zip fields, pair.1.Takes forms pair.2.2 := by
      intro pair hpair
      rw [zip_eq_map hnames hnodup] at hpair
      obtain ⟨slot, hslot, rfl⟩ := List.mem_map.mp hpair
      exact htakes slot hslot
    exact .form hnames (fun pair hpair => (hpairs pair hpair).1)
      (fun pair hpair => (hpairs pair hpair).2)

/-- What an item of fitting data passes, a value that may be nothing passes as well. -/
theorem checkValue_of_checkShape [Halves] {shape : Shape μ} {v : Value} (hfits : Fits forms shape v)
    {fuel : Nat} {place : List Value} {taken : Nat}
    (h : checkShape forms now fuel shape place v taken = .ok (v, taken)) :
    checkValue forms now (fuel + 1) shape place v taken = .ok (v, taken) := by
  by_cases hnull : v = .null
  · subst hnull
    cases htakes : shape.takesNothing with
    | true => simp [checkValue, htakes]
    | false => exact absurd rfl (hfits.ne_null htakes)
  · rw [checkValue_of_ne_null hnull]
    exact h

section Given

variable {form : Form μ} {slot : Slot μ} {fields : Fields}
  (hnames : Fields.names fields = form.fields.map (·.name))

include hnames

theorem given?_of_finds (hfinds : form.finds slot = true) {v : Value}
    (hget : Fields.get? fields slot.name = some v) : given? form slot fields = some v := by
  by_cases hkey : slot.key = slot.name
  · simp only [given?, hkey, hget]
  · simp only [Form.finds, beq_eq_false_iff_ne.mpr hkey, Bool.false_or, Bool.and_eq_true,
      Bool.not_eq_true', List.contains_eq_mem, decide_eq_false_iff_not] at hfinds
    have hnone : Fields.get? fields slot.key = none := by
      rw [Fields.get?_eq_none_iff, hnames]
      exact hfinds.2
    simp only [given?, hnone, hfinds.1, bne_iff_ne.mpr hkey, Bool.and_self, if_true, hget]

theorem given?_of_not_mem (hkey : slot.key ∉ form.fields.map (·.name))
    (htakes : form.takesNames = false) : given? form slot fields = none := by
  have hnone : Fields.get? fields slot.key = none := by
    rw [Fields.get?_eq_none_iff, hnames]
    exact hkey
  simp only [given?, hnone, htakes, Bool.false_and, Bool.false_eq_true, if_false]

end Given

/-- A form whose fields pass unchanged, or are left out and filled with a fixed value. -/
theorem checkForm_eq_map [Halves] {form : Form μ} {parts : Fields} (value : Slot μ → Value)
    {fuel : Nat} (h : ∀ slot ∈ form.fields,
      (given? form slot parts = some (value slot) ∧
        (value slot = .null → slot.takesNothing = true) ∧
        (value slot ≠ .null → ∀ place taken,
          checkShape forms now (fuel + 1) slot.shape place (value slot) taken =
            .ok (value slot, taken))) ∨
      given? form slot parts = none ∧ slot.fallback = .value (value slot))
    (place : List Value) (taken : Nat) :
    checkForm forms now (fuel + 2) form place parts taken =
      .ok (form.fields.map fun slot => (slot.name, value slot), taken) := by
  rw [checkForm]
  refine gather_eq_map (fun slot => (slot.name, value slot)) ?_ taken
  intro slot hslot taken
  rcases h slot hslot with ⟨hgiven, hnothing, hpass⟩ | ⟨hgiven, hfallback⟩
  · by_cases hnull : value slot = .null
    · rw [hnull] at hgiven ⊢
      cases hmay : slot.mayBeNothing with
      | true => simp [hgiven]
      | false =>
          have hshape : slot.shape.takesNothing = true := by
            simpa [Slot.takesNothing, hmay] using hnothing hnull
          simp [hgiven, checkValue, hshape]
    · simp only [hgiven, hpass hnull]
  · simp only [hgiven, hfallback, Fallback.fill]

/-- Data that fits passes unchanged. -/
theorem checkShape_of_fits [Halves] (hown : FindsOwn forms P) {shape : Shape μ} {v : Value}
    (h : Fits forms shape v) (hwithin : shape.Within P) {fuel : Nat} (hfuel : 2 * v.depth < fuel)
    (place : List Value) (taken : Nat) :
    checkShape forms now fuel shape place v taken = .ok (v, taken) := by
  -- Two steps of fuel lead into the parts, which are less deep.
  induction h generalizing fuel place taken with
  | anything v =>
      obtain ⟨fuel, rfl⟩ := Nat.exists_eq_add_one.mpr (Nat.zero_lt_of_lt hfuel)
      rfl
  | plain hplain hself =>
      rename_i shape v
      obtain ⟨fuel, rfl⟩ := Nat.exists_eq_add_one.mpr (Nat.zero_lt_of_lt hfuel)
      cases shape with
      | anything | list | mapping | table | form => simp [Shape.isPlain] at hplain
      | _ => simp only [checkShape, hself]
  | list hitems ih =>
      rename_i item items
      rw [Value.depth] at hfuel
      obtain ⟨fuel, rfl⟩ : ∃ more, fuel = more + 2 := ⟨fuel - 2, by omega⟩
      have hone : ∀ pair ∈ items.mapIdx (fun i x => (i, x)), ∀ taken,
          checkValue forms now (fuel + 1) item (place ++ [.int pair.1]) pair.2 taken =
            .ok (pair.2, taken) := by
        intro pair hpair taken
        obtain ⟨i, hi, rfl⟩ := List.mem_mapIdx.mp hpair
        have hmem : items[i] ∈ items := List.getElem_mem hi
        have hdepth := Value.depth_le_depthItems hmem
        exact checkValue_of_checkShape (hitems _ hmem) (ih _ hmem hwithin (by omega) _ _)
      have hitself : (items.mapIdx fun i x => (i, x)).map Prod.snd = items := by
        apply List.ext_getElem <;> simp
      simp only [checkShape, gather_eq_map Prod.snd hone, hitself]
  | mapping hnodup hvalues ih =>
      rename_i value fields
      rw [Value.depth] at hfuel
      obtain ⟨fuel, rfl⟩ : ∃ more, fuel = more + 2 := ⟨fuel - 2, by omega⟩
      have hone : ∀ entry ∈ fields, ∀ taken,
          checkValue forms now (fuel + 1) value (place ++ [.text entry.1]) entry.2 taken =
            .ok (entry.2, taken) := by
        intro entry hentry taken
        have hdepth := Value.depth_le_depthFields hentry
        exact checkValue_of_checkShape (hvalues _ hentry) (ih _ hentry hwithin (by omega) _ _)
      have hitself : Fields.merge [] fields = fields := Fields.merge_eq_append hnodup
      rw [checkShape]
      simp only [Value.entries?]
      rw [gather_eq_map (fun pair => ((pair.1.text?).getD "", pair.2))]
      · simp [Function.comp_def, Value.text?, hitself]
      · intro pair hpair taken
        obtain ⟨entry, hentry, rfl⟩ := List.mem_map.mp hpair
        simp only [asText, hone entry hentry, Value.text?, Option.getD_some]
  | table hnodup =>
      rename_i fields
      obtain ⟨fuel, rfl⟩ := Nat.exists_eq_add_one.mpr (Nat.zero_lt_of_lt hfuel)
      have hitself : Fields.merge [] fields = fields := Fields.merge_eq_append hnodup
      simp [checkShape, Value.entries?, Function.comp_def, Json.keyName, hitself]
  | form hnames hnothing hvalues ih =>
      rename_i name fields
      rw [Value.depth] at hfuel
      obtain ⟨fuel, rfl⟩ : ∃ more, fuel = more + 2 := ⟨fuel - 2, by omega⟩
      have hzip := zip_eq_map hnames (hown.nodup name (hwithin name rfl))
      have hitself := eq_map_of_names hnames (hown.nodup name (hwithin name rfl))
      obtain ⟨fuel, rfl⟩ : ∃ more, fuel = more + 1 := ⟨fuel - 1, by omega⟩
      simp only [checkShape, partsOf]
      rw [checkForm_eq_map fun slot => (Fields.get? fields slot.name).getD .null,
        ← hitself]
      intro slot hslot
      have hpair : (slot, slot.name, (Fields.get? fields slot.name).getD .null) ∈
          (forms name).fields.zip fields := by
        rw [hzip]
        exact List.mem_map.mpr ⟨slot, hslot, rfl⟩
      obtain ⟨v, hget⟩ : ∃ v, Fields.get? fields slot.name = some v := by
        rw [← Fields.mem_names_iff, hnames]
        exact List.mem_map.mpr ⟨slot, hslot, rfl⟩
      have hdepth : v.depth ≤ Value.depthFields fields :=
        Value.depth_le_depthFields (Fields.mem_of_get?_eq_some hget)
      rw [hget, Option.getD_some] at hpair ⊢
      refine .inl ⟨given?_of_finds hnames (hown.finds name (hwithin name rfl) slot hslot) hget,
        hnothing _ hpair, ?_⟩
      intro hne place taken
      have hless : 2 * v.depth < fuel + 1 := by omega
      exact ih _ hpair hne (hown.inner name (hwithin name rfl) slot hslot) hless place taken

theorem checkAt_of_fits [Halves] (hown : OwnNames forms P) {shape : Shape μ} {v : Value}
    (h : Fits forms shape v) (hwithin : shape.Within P) (place : List Value) (taken : Nat) :
    checkAt forms now shape place v taken = .ok (v, taken) :=
  checkValue_of_checkShape h (checkShape_of_fits hown.findsOwn h hwithin (by omega) place taken)

end Pass

end Schema

end Scriptorium
