import Scriptorium.Proofs.Sorting
import Scriptorium.Proofs.Template.Stored
import Scriptorium.Proofs.Web.Sending
set_option autoImplicit false

/-!
# Listing templates

The list of templates is answered with all stored templates that match, or not at all: one matching
template with nothing in a field that has to hold something, or with a text that has no bytes, makes
the whole list fail.  Such templates come from updates.
-/

namespace Scriptorium.Template

open Outcome Schema Web

/-- The stored templates of a type, or of all types, without the default ones if so asked. -/
def Library.matching (lib : Library) (category : Option String) (withDefaults : Bool) :
    List Template :=
  lib.templates.filter fun t =>
    (category.all fun c => t.category.toValue.same (.text c)) &&
      (withDefaults || !t.isDefault.truthy)

theorem Library.list_eq_sort [Halves] (lib : Library) (category : Option String)
    (withDefaults : Bool) :
    lib.list category withDefaults =
      Sorting.sort Library.before (lib.matching category withDefaults) :=
  rfl

/-- A template whose texts all have bytes. -/
def Sendable [Halves] (t : Template) : Prop := Json.unsendable? (exposed t.toValue) = none

/-! ## Sorting -/

theorem before_ok [Halves] {a b : Template} (ha : a.Declared) (hb : b.Declared) (hfa : a.Filled)
    (hfb : b.Filled) : ∃ answer, Library.before a b = .ok answer := by
  simp only [Filled, List.forall_mem_cons] at hfa hfb
  obtain ⟨s, hs⟩ := (ha.name.resolve_left hfa.1).eq_text
  obtain ⟨t, ht⟩ := (hb.name.resolve_left hfb.1).eq_text
  obtain ⟨c, -, hc⟩ := (ha.category.resolve_left hfa.2.2.1).eq_member
  obtain ⟨d, -, hd⟩ := (hb.category.resolve_left hfb.2.2.1).eq_member
  simp only [Library.before, hs, ht, hc, hd]
  split
  · split
    · exact ⟨_, rfl⟩
    · exact ⟨_, rfl⟩
  · exact ⟨_, rfl⟩

/-! ## Answering -/

section Finish

variable {found : List Template} (now : Stamp)

/-- Filled templates are shown one by one. -/
theorem finish_list [Halves] (hdeclared : ∀ t ∈ found, t.Declared)
    (hfilled : ∀ t ∈ found, t.Filled) :
    finish Api.Templates.list now (.value (.list (found.map (·.toValue)))) =
      { status := 200, body := some (.list (found.map fun t => exposed t.toValue)) } := by
  have hfits : Fits Forms.form (.list (.form .template)) (.list (found.map (·.toValue))) := by
    refine .list ?_
    rw [List.forall_mem_map]
    intro t ht
    exact (fits_toValue_iff (hdeclared t ht)).mpr (hfilled t ht)
  have hwithin : Shape.Within (· ∉ Forms.renamed) (.list (.form FormName.template)) := by
    intro name hname
    obtain rfl := Option.some.inj hname
    decide
  have hcheck : checkResult now Api.Templates.list.shown
      (.value (.list (found.map (·.toValue)))) = .ok (.list (found.map (·.toValue))) := by
    change checkOne now (.list (.form .template)) _ _ = _
    rw [checkOne, checkAt_of_fits Forms.ownNames hfits hwithin]
    rfl
  simp only [finish, hcheck]
  have hkeyed : keyedResult Api.Templates.list.shown (.list (found.map (·.toValue))) =
      .list (found.map (·.toValue)) :=
    (keyed_eq_self _).1 _ hwithin _
  rw [hkeyed, exposed_list, List.map_map]
  rfl

/-- Templates that pass the check of their form are filled. -/
theorem filled_of_checkForm [Halves] {t : Template} {fuel taken : Nat} {place : List Value}
    {result : Fields × Nat}
    (h : checkForm Forms.form now fuel (Forms.form .template) place t.toFields taken = .ok result) :
    t.Filled := by
  have hgiven : ∀ slot ∈ (Forms.form .template).fields, slot.takesNothing = false →
      given? (Forms.form .template) slot t.toFields ≠ some .null := by
    intro slot hslot hneeded hnull
    rw [takesNothing_of_checkForm h hslot hnull] at hneeded
    cases hneeded
  simp only [Forms.form, Forms.fields, Forms.templateBase, Forms.templateParts, List.cons_append,
    List.nil_append, List.forall_mem_cons] at hgiven
  obtain ⟨hname, hdescription, htype, hflag, -, hversion, -⟩ := hgiven
  simp only [Filled, List.forall_mem_cons]
  exact ⟨fun hnull => hname rfl (congrArg some hnull),
    fun hnull => hdescription rfl (congrArg some hnull),
    fun hnull => htype rfl (congrArg some hnull), fun hnull => hflag rfl (congrArg some hnull),
    fun hnull => hversion rfl (congrArg some hnull), by simp⟩

/-- A template that is not filled cannot be shown. -/
theorem status_finish_list [Halves] {t : Template} (ht : t ∈ found) (hunfilled : ¬t.Filled) :
    (finish Api.Templates.list now (.value (.list (found.map (·.toValue))))).status = 500 := by
  cases hcheck : checkResult now Api.Templates.list.shown
      (.value (.list (found.map (·.toValue)))) with
  | error findings => simp [finish, hcheck, Answer.broken]
  | ok v =>
      change checkOne now (.list (.form .template)) _ _ = _ at hcheck
      rw [checkOne, map_eq_ok_iff] at hcheck
      obtain ⟨result, hresult, -⟩ := hcheck
      have hmem : Value.record t.toFields ∈ found.map (·.toValue) :=
        List.mem_map.mpr ⟨t, ht, rfl⟩
      obtain ⟨fuel, place, taken, fields, hform⟩ := checkForm_of_checkAt_list hresult hmem
      exact absurd (filled_of_checkForm now hform) hunfilled

end Finish

section Answer

variable [Halves] {arrival : Arrival} {world : World} {captured : List (String × String)}
    {call : Call}
  (hchoice : Api.shelf.choice arrival = .found (.endpoint "GET" Api.Templates.list) captured)
  (hcall : Api.Templates.list.call? captured arrival.around arrival.request world = some call)

include hchoice hcall

theorem answer_list_of_ok {found : List Template}
    (h : world.library.list ((call.arg "template_type").text?) (call.arg "include_default").truthy =
      .ok found) :
    Api.shelf.answer arrival world =
      (finish Api.Templates.list arrival.around.now
        (.value (.list (found.map (·.toValue))))).sent := by
  have hrun : (Api.Templates.list.run call world).2 =
      .ok (.value (.list (found.map (·.toValue)))) := by
    unfold Api.Templates.list Endpoint.reading
    simp only [h]
    rfl
  rw [Application.answer_of_choice hchoice, Endpoint.answer_of_call hcall, hrun]

theorem status_answer_list_of_error {f : Fault}
    (h : world.library.list ((call.arg "template_type").text?) (call.arg "include_default").truthy =
      .error f) :
    (Api.shelf.answer arrival world).status = 500 := by
  have hrun : (Api.Templates.list.run call world).2 =
      .error (.refused 500 (.text "Failed to retrieve templates")) := by
    unfold Api.Templates.list Endpoint.reading
    simp only [h]
    rfl
  rw [Application.answer_of_choice hchoice, Endpoint.answer_of_call hcall, hrun]
  rcases Answer.status_sent (.ofFault Api.shelf.manner
    (.refused 500 (.text "Failed to retrieve templates"))) with hsent | ⟨-, hstatus⟩
  · rw [hsent]
    exact Answer.status_refusal _ _ _
  · exact hstatus

/-- The list of templates of the declared types: all that match, or a failure. -/
theorem answer_list (hdeclared : ∀ t ∈ world.library.templates, t.Declared) {chosen : List Template}
    (hchosen : chosen = world.library.matching ((call.arg "template_type").text?)
      (call.arg "include_default").truthy) :
    ((∀ t ∈ chosen, t.Filled ∧ t.Sendable) → ∃ found : List Template, found.Perm chosen ∧
      Api.shelf.answer arrival world =
        { status := 200, body := some (.list (found.map fun t => exposed t.toValue)) }) ∧
    ((∃ t ∈ chosen, ¬(t.Filled ∧ t.Sendable)) →
      (Api.shelf.answer arrival world).status = 500) := by
  have htyped : ∀ t ∈ chosen, t.Declared := by
    intro t ht
    rw [hchosen] at ht
    exact hdeclared t (List.mem_filter.mp ht).1
  have hlist := Library.list_eq_sort world.library ((call.arg "template_type").text?)
    (call.arg "include_default").truthy
  rw [← hchosen] at hlist
  have hsendable : ∀ {found : List Template}, found.Perm chosen →
      (Json.unsendable? (.list (found.map fun t => exposed t.toValue)) = none ↔
        ∀ t ∈ chosen, t.Sendable) := by
    intro found hperm
    rw [Json.unsendable?_list_eq_none_iff, List.forall_mem_map]
    exact ⟨fun h t ht => h t (hperm.mem_iff.mpr ht), fun h t ht => h t (hperm.mem_iff.mp ht)⟩
  constructor
  · intro hgood
    have hcomparable : Sorting.Comparable Library.before chosen := by
      intro a ha b hb
      exact before_ok (htyped a ha) (htyped b hb) (hgood a ha).1 (hgood b hb).1
    obtain ⟨found, hsort⟩ := Sorting.sort_ok hcomparable
    have hperm := Sorting.sort_perm hsort
    refine ⟨found, hperm, ?_⟩
    rw [answer_list_of_ok hchoice hcall (hlist.trans hsort), finish_list arrival.around.now
      (fun t ht => htyped t (hperm.mem_iff.mp ht)) (fun t ht => (hgood t (hperm.mem_iff.mp ht)).1)]
    simp only [Answer.sent, Option.bind_some, (hsendable hperm).mpr fun t ht => (hgood t ht).2]
  · rintro ⟨t, ht, hbad⟩
    cases hsort : Sorting.sort Library.before chosen with
    | error f => exact status_answer_list_of_error hchoice hcall (hlist.trans hsort)
    | ok found =>
        have hperm := Sorting.sort_perm hsort
        rw [answer_list_of_ok hchoice hcall (hlist.trans hsort)]
        by_cases hfilled : ∀ t ∈ found, t.Filled
        · rw [finish_list arrival.around.now (fun t ht => htyped t (hperm.mem_iff.mp ht)) hfilled]
          cases hsent : Json.unsendable? (.list (found.map fun t => exposed t.toValue)) with
          | none =>
              have hall := (hsendable hperm).mp hsent
              exact absurd ⟨hfilled t (hperm.mem_iff.mpr ht), hall t ht⟩ hbad
          | some f => simp [Answer.sent, hsent, Answer.broken]
        · simp only [not_forall] at hfilled
          obtain ⟨unfilled, hmem, hunfilled⟩ := hfilled
          have hstatus := status_finish_list arrival.around.now hmem hunfilled
          rcases Answer.status_sent (finish Api.Templates.list arrival.around.now
            (.value (.list (found.map (·.toValue))))) with hsent | ⟨-, hbroken⟩
          · rw [hsent, hstatus]
          · exact hbroken

end Answer

/-- In every run the list of templates is answered with all stored templates that match, if each of
them is filled and can be sent, and with a failure otherwise.  All are filled in a run in which no
update gives nothing to a field. -/
theorem listing_shows_all_or_fails [Halves] (rest : World) (now : Stamp) (arrivals : List Arrival)
    {arrival : Arrival} {captured : List (String × String)} {call : Call}
    (hchoice : Api.shelf.choice arrival = .found (.endpoint "GET" Api.Templates.list) captured)
    (hcall : Api.Templates.list.call? captured arrival.around arrival.request
      (Api.shelf.afterAll arrivals (newService rest now)) = some call) :
    let world := Api.shelf.afterAll arrivals (newService rest now)
    let chosen := world.library.matching ((call.arg "template_type").text?)
      (call.arg "include_default").truthy
    ((∀ t ∈ chosen, t.Filled ∧ t.Sendable) → ∃ found : List Template, found.Perm chosen ∧
      Api.shelf.answer arrival world =
        { status := 200, body := some (.list (found.map fun t => exposed t.toValue)) }) ∧
    ((∃ t ∈ chosen, ¬(t.Filled ∧ t.Sendable)) →
      (Api.shelf.answer arrival world).status = 500) ∧
    (Api.shelf.Along (fun arrival world => ¬GivesNothing arrival world) arrivals
      (newService rest now) → ∀ t ∈ chosen, t.Filled) := by
  intro world chosen
  obtain ⟨hshown, hfails⟩ := answer_list hchoice hcall (declared_afterAll rest now arrivals) rfl
  refine ⟨hshown, hfails, ?_⟩
  intro halong t ht
  exact filled_afterAll rest now halong t (List.mem_filter.mp ht).1

/-! ### A custom template -/

/-- The request that creates a custom template. -/
def noteCreation : Arrival :=
  asking
    { method := "POST", path := "/api/templates/"
      content := .json (.record [("name", .text "Note"), ("description", .text ""),
        ("type", .text "custom")]) }

/-- The request for the custom templates. -/
def customListing : Arrival :=
  asking { method := "GET", path := "/api/templates/", query := [("template_type", "custom")] }

set_option maxRecDepth 10000 in
theorem choice_customListing [Halves] :
    Api.shelf.choice customListing = .found (.endpoint "GET" Api.Templates.list) [] := by
  with_unfolding_all rfl

set_option maxRecDepth 10000 in
theorem not_givesNothing_noteCreation [Halves] (world : World) :
    ¬GivesNothing noteCreation world := by
  rintro ⟨captured, call, hchoice, -⟩
  have hfound : Api.shelf.choice noteCreation =
      .found (.endpoint "POST" Api.Templates.create) [] := by
    with_unfolding_all rfl
  exact choice_ne_update hfound (by decide) captured hchoice

section

open scoped Halves.Plain

set_option maxRecDepth 10000 in
/-- The only custom template then is the created one, and it can be sent. -/
theorem matching_customListing :
    ∃ call t, Api.Templates.list.call? [] customListing.around customListing.request
        (Api.shelf.afterAll [noteCreation] opened) = some call ∧
      (Api.shelf.afterAll [noteCreation] opened).library.matching
        ((call.arg "template_type").text?) (call.arg "include_default").truthy = [t] ∧
      t.name.text? = some "Note" ∧ t.Sendable := by
  have hone : (Api.Templates.list.call? [] customListing.around customListing.request
      (Api.shelf.afterAll [noteCreation] opened)).any (fun call =>
        ((Api.shelf.afterAll [noteCreation] opened).library.matching
          ((call.arg "template_type").text?) (call.arg "include_default").truthy).map (fun t =>
            (t.name.text?, (Json.unsendable? (exposed t.toValue)).isNone)) =
          [(some "Note", true)]) = true := by
    decide +kernel
  obtain ⟨call, hcall, hmatching⟩ := (Option.any_eq_true _ _).mp hone
  obtain ⟨t, ht, hshown⟩ := List.map_eq_singleton_iff.mp (of_decide_eq_true hmatching)
  obtain ⟨hname, hsendable⟩ := Prod.mk.inj hshown
  exact ⟨call, t, hcall, ht, hname, Option.isNone_iff_eq_none.mp hsendable⟩

/-- A created custom template is what the list of custom templates shows. -/
theorem note_listed_alone :
    ∃ (call : Call) (t : Template),
      Api.Templates.list.call? [] customListing.around customListing.request
        (Api.shelf.afterAll [noteCreation] opened) = some call ∧
      t.name.text? = some "Note" ∧
      Api.shelf.answer customListing (Api.shelf.afterAll [noteCreation] opened) =
        { status := 200, body := some (.list [exposed t.toValue]) } := by
  obtain ⟨call, t, hcall, hmatching, hname, hsendable⟩ := matching_customListing
  refine ⟨call, t, hcall, hname, ?_⟩
  obtain ⟨hshown, -, hfilled⟩ :=
    listing_shows_all_or_fails _ _ [noteCreation] choice_customListing hcall
  have hgood : ∀ t' ∈ (Api.shelf.afterAll [noteCreation] opened).library.matching
      ((call.arg "template_type").text?) (call.arg "include_default").truthy,
      t'.Filled ∧ t'.Sendable := by
    intro t' ht'
    refine ⟨hfilled ⟨not_givesNothing_noteCreation opened, trivial⟩ t' ht', ?_⟩
    rw [hmatching, List.mem_singleton] at ht'
    exact ht' ▸ hsendable
  obtain ⟨found, hperm, hanswer⟩ := hshown hgood
  obtain rfl : found = [t] := List.perm_singleton.mp (hperm.trans (.of_eq hmatching))
  exact hanswer

end

/-! ### A template without a type -/

/-- The request that takes the type from the default requirements specification. -/
def typeRemoval : Arrival :=
  asking
    { method := "PUT", path := "/api/templates/00000001-0000-4000-8000-000000000001"
      content := .json (.record [("type", .null)]) }

/-- The request for all templates. -/
def listing : Arrival := asking { method := "GET", path := "/api/templates/" }

section

open scoped Halves.Plain

set_option maxRecDepth 10000 in
/-- Templates one of which has no type cannot be listed. -/
theorem listing_fails_after_typeRemoval :
    (Api.shelf.answer listing (Api.shelf.afterAll [typeRemoval] opened)).status = 500 := by
  decide +kernel

end

end Scriptorium.Template
