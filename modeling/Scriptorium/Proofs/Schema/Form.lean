import Scriptorium.Schema.Check
set_option autoImplicit false

/-!
# The fields of checked data

Data that passes the check against a form is a record that has exactly the fields of the form, in
the order of the form, whatever the data named beside them.
-/

namespace Scriptorium.Schema

variable {μ : Type} {forms : μ → Form μ} {now : Stamp}

/-- Results that are named after what was checked have its names, in order. -/
theorem names_gather {α : Type} (name : α → String) {check : α → Nat → Checked (String × Value)}
    (hcheck : ∀ x taken result, check x taken = .ok result → result.1.1 = name x) {xs : List α}
    {taken : Nat} {result : Fields × Nat} (h : gather check xs taken = .ok result) :
    Fields.names result.1 = xs.map name := by
  induction xs generalizing taken result with
  | nil =>
      obtain rfl := Except.ok.inj h
      rfl
  | cons x rest ih =>
      unfold gather at h
      cases hx : check x taken with
      | error findings =>
          simp only [hx] at h
          split at h <;> exact absurd h (by simp)
      | ok first =>
          simp only [hx] at h
          cases hrest : gather check rest first.2 with
          | error findings => simp [hrest] at h
          | ok later =>
              simp only [hrest] at h
              obtain rfl := Except.ok.inj h
              have hnames := ih hrest
              simp only [Fields.names] at hnames
              simp [Fields.names, hcheck x taken first hx, hnames]

/-- A checked form has the fields of the form. -/
theorem names_checkForm [Halves] {fuel : Nat} {form : Form μ} {place : List Value} {parts : Fields}
    {taken : Nat} {result : Fields × Nat}
    (h : checkForm forms now fuel form place parts taken = .ok result) :
    Fields.names result.1 = form.fields.map (·.name) := by
  cases fuel with
  | zero => simp [checkForm, complain] at h
  | succ fuel =>
      rw [checkForm] at h
      refine names_gather (·.name) ?_ h
      intro field taken result hfield
      simp only at hfield
      split at hfield
      · split at hfield
        · rw [← Except.ok.inj hfield]
        · simp [complain] at hfield
      · split at hfield
        · rw [← Except.ok.inj hfield]
        · split at hfield
          · rw [← Except.ok.inj hfield]
          · simp at hfield
      · split at hfield
        · rw [← Except.ok.inj hfield]
        · simp at hfield

/-- Data that passes the check against a form is a record with the fields of the form. -/
theorem names_checkAt_form [Halves] {name : μ} {place : List Value} {v : Value} {taken : Nat}
    {result : Value × Nat} (h : checkAt forms now (.form name) place v taken = .ok result) :
    ∃ fields, result.1 = .record fields ∧
      Fields.names fields = (forms name).fields.map (·.name) := by
  have hshape : ∀ fuel, checkShape forms now fuel (.form name) place v taken = .ok result →
      ∃ fields, result.1 = .record fields ∧
        Fields.names fields = (forms name).fields.map (·.name) := by
    intro fuel hchecked
    cases fuel with
    | zero => simp [checkShape, complain] at hchecked
    | succ fuel =>
        rw [checkShape] at hchecked
        split at hchecked
        · simp [complain] at hchecked
        · split at hchecked
          · rename_i hform
            obtain rfl := Except.ok.inj hchecked
            exact ⟨_, rfl, names_checkForm hform⟩
          · simp at hchecked
  unfold checkAt fuelFor checkValue at h
  split at h
  · simp [Shape.takesNothing, complain] at h
  · exact hshape _ h

end Scriptorium.Schema
