import Scriptorium.Proofs.Template.Step
set_option autoImplicit false

/-!
# Default templates

A new service has a default template of both types of specifications.  Creating, copying, deleting
and reading never take a type its last default template: only an update does, which takes the flag
from that template or gives it another type.
-/

namespace Scriptorium.Template

open Web

/-- Whether a template is a default template of a type. -/
def isDefaultOf (category : String) (t : Template) : Bool :=
  t.category.toValue.same (.text category) && t.isDefault.truthy

/-- A type has a default template. -/
def Library.HasDefault (lib : Library) (category : String) : Prop :=
  ∃ entry ∈ lib.entries, entry.2.isDefaultOf category = true

/-- Changes that give nothing as the flag or the type of a template. -/
def Clears (changes : Fields) : Prop :=
  Fields.get? changes "is_default" = some .null ∨ Fields.get? changes "type" = some .null

/-- Changes that take the flag from a template or give it another type. -/
def Removes (category : String) (changes : Fields) : Prop :=
  (∃ v, Fields.get? changes "is_default" = some v ∧ v ≠ .null ∧ v.truthy = false) ∨
    ∃ v, Fields.get? changes "type" = some v ∧ v ≠ .null ∧ v.same (.text category) = false

/-- An arrival updates a template and gives nothing as its flag or its type. -/
def Voids [Halves] (arrival : Arrival) (world : World) : Prop :=
  ∃ captured call,
    Api.shelf.choice arrival = .found (.endpoint "PUT" Api.Templates.update) captured ∧
    Api.Templates.update.call? captured arrival.around arrival.request world = some call ∧
    Clears (call.changes "template_data")

/-- An arrival updates the only default template of a type so that it is one no more. -/
def Demotes [Halves] (category : String) (arrival : Arrival) (world : World) : Prop :=
  ∃ captured call i t,
    Api.shelf.choice arrival = .found (.endpoint "PUT" Api.Templates.update) captured ∧
    Api.Templates.update.call? captured arrival.around arrival.request world = some call ∧
    Library.readId (call.arg "template_id") = .ok i ∧
    world.library.get? (.ident i) = some t ∧
    (∀ entry ∈ world.library.entries,
      entry.2.isDefaultOf category = true → entry.1 = .ident i) ∧
    Removes category (call.changes "template_data")

/-! ## Looking for defaults -/

theorem Library.default?_isSome_iff (lib : Library) (category : String) :
    (lib.default? category).isSome = true ↔ lib.HasDefault category := by
  simp only [Library.default?, Library.templates, List.find?_isSome, List.mem_map]
  constructor
  · rintro ⟨t, ⟨entry, hentry, rfl⟩, hdefault⟩
    exact ⟨entry, hentry, hdefault⟩
  · rintro ⟨entry, hentry, hdefault⟩
    exact ⟨entry.2, ⟨entry, hentry, rfl⟩, hdefault⟩

section Entries

variable {category : String} {front rest : List (Value × Template)} {old entry : Value × Template}
  (hentry : entry ∈ front ++ old :: rest) (hdefault : entry.2.isDefaultOf category = true)

include hentry hdefault

/-- A default template stays where another template is taken out. -/
theorem Library.hasDefault_of_removed (hother : entry ≠ old) :
    Library.HasDefault ⟨front ++ rest⟩ category := by
  rcases List.mem_append.mp hentry with hfront | hlater
  · exact ⟨entry, List.mem_append_left _ hfront, hdefault⟩
  · rcases List.mem_cons.mp hlater with hold | hrest
    · exact absurd hold hother
    · exact ⟨entry, List.mem_append_right _ hrest, hdefault⟩

/-- A default template stays where another template is replaced, or is itself replaced by one. -/
theorem Library.hasDefault_of_replaced {new : Value × Template}
    (hnew : entry = old → new.2.isDefaultOf category = true) :
    Library.HasDefault ⟨front ++ new :: rest⟩ category := by
  by_cases hold : entry = old
  · exact ⟨new, List.mem_append_right _ List.mem_cons_self, hnew hold⟩
  · obtain ⟨kept, hkept, hdefault⟩ := hasDefault_of_removed hentry hdefault hold
    refine ⟨kept, ?_, hdefault⟩
    exact List.mem_append.mpr ((List.mem_append.mp hkept).imp_right (List.mem_cons_of_mem _))

end Entries

section Revised

variable {category : String} {changes : Fields} (now : Stamp)

theorem isDefaultOf_revised_of_removes (h : Removes category changes) (t : Template) :
    (t.revised changes now).isDefaultOf category = false := by
  rw [isDefaultOf, category_revised, Bool.and_eq_false_iff]
  rcases h with ⟨v, hget, -, hflag⟩ | ⟨v, hget, -, htype⟩
  · exact .inr (by simpa [revised, hget] using hflag)
  · exact .inl (by simpa [hget] using htype)

theorem isDefaultOf_revised_of_not_removes (hfilled : ¬Clears changes)
    (h : ¬Removes category changes) {t : Template} (hdefault : t.isDefaultOf category = true) :
    (t.revised changes now).isDefaultOf category = true := by
  simp only [isDefaultOf, Bool.and_eq_true] at hdefault
  simp only [Clears, not_or] at hfilled
  simp only [Removes, not_or, not_exists, not_and, Bool.not_eq_false] at h
  rw [isDefaultOf, category_revised, Bool.and_eq_true]
  constructor
  · cases hget : Fields.get? changes "type" with
    | none => exact hdefault.1
    | some v => exact h.2 v hget fun hnull => hfilled.2 (by rw [hget, hnull])
  · cases hget : Fields.get? changes "is_default" with
    | none => simpa [revised, hget] using hdefault.2
    | some v =>
        have hflag := h.1 v hget fun hnull => hfilled.1 (by rw [hget, hnull])
        simpa [revised, hget] using hflag

end Revised

/-! ## Steps -/

section Step

variable {category : String} {arrival : Arrival} {world : World} (hkeyed : world.library.Keyed)

include hkeyed

/-- Where the only default template is demoted, there is none. -/
theorem not_hasDefault_of_demotes [Halves] (h : Demotes category arrival world) :
    ¬(Api.shelf.after arrival world).library.HasDefault category := by
  obtain ⟨captured, call, i, t, hchoice, hcall, hread, hold, honly, hremoves⟩ := h
  obtain ⟨hid, front, rest, hentries, hput⟩ := put_update hkeyed hcall hold
  have hrun := library_update_of_found call world hread hold (by rw [hid]; rfl)
  have hafter : (Api.shelf.after arrival world).library =
      (Api.Templates.update.run call world).1.library := by
    rw [Application.after_of_choice hchoice, hcall, Option.elim_some]
  rw [hafter, hrun, hput]
  -- The entries before and behind have other keys, so they are no default templates.
  have honce : (world.library.entries.map (·.1)).Nodup := hkeyed.once
  rw [hentries, List.map_append, List.map_cons, List.nodup_append] at honce
  rintro ⟨entry, hentry, hdefault⟩
  rcases List.mem_append.mp hentry with hfront | hlater
  · have hkey := honly entry (by simp [hentries, hfront]) hdefault
    exact honce.2.2 entry.1 (List.mem_map.mpr ⟨entry, hfront, rfl⟩) (.ident i)
      List.mem_cons_self hkey
  · rcases List.mem_cons.mp hlater with rfl | hrest
    · rw [isDefaultOf_revised_of_removes call.around.now hremoves t] at hdefault
      cases hdefault
    · have hkey := honly entry (by simp [hentries, hrest]) hdefault
      exact (List.nodup_cons.mp honce.2.1).1 (List.mem_map.mpr ⟨entry, hrest, hkey⟩)

/-- Every other request that gives something as the flag and the type keeps a default template. -/
theorem hasDefault_of_not_demotes [Halves] (hfilled : ¬Voids arrival world)
    (hnot : ¬Demotes category arrival world) (h : world.library.HasDefault category) :
    (Api.shelf.after arrival world).library.HasDefault category := by
  obtain ⟨entry, hentry, hdefault⟩ := h
  have hstep := step_after arrival hkeyed
  generalize (Api.shelf.after arrival world).library = after at hstep
  cases hstep with
  | nothing => exact ⟨entry, hentry, hdefault⟩
  | created => exact ⟨entry, List.mem_append_left _ hentry, hdefault⟩
  | copied => exact ⟨entry, List.mem_append_left _ hentry, hdefault⟩
  | deleted hchoice hcall hread hold hflag hentries =>
      rw [hentries] at hentry
      refine Library.hasDefault_of_removed hentry hdefault ?_
      rintro rfl
      simp [isDefaultOf, hflag] at hdefault
  | updated hchoice hcall hread hold hentries =>
      rename_i captured call i t front rest
      by_cases hremoves : Removes category (call.changes "template_data")
      · -- Another default template stands under another key, and stays.
        obtain ⟨other, hother, hother', hkey⟩ : ∃ other ∈ world.library.entries,
            other.2.isDefaultOf category = true ∧ other.1 ≠ .ident i := by
          apply Classical.byContradiction
          intro hnone
          refine hnot ⟨captured, call, i, t, hchoice, hcall, hread, hold, ?_, hremoves⟩
          intro other hother hdefault
          apply Classical.byContradiction
          intro hkey
          exact hnone ⟨other, hother, hdefault, hkey⟩
        rw [hentries] at hother
        refine Library.hasDefault_of_replaced hother hother' ?_
        rintro rfl
        exact absurd rfl hkey
      · have hgiven : ¬Clears (call.changes "template_data") := fun hclears =>
          hfilled ⟨captured, call, hchoice, hcall, hclears⟩
        rw [hentries] at hentry
        refine Library.hasDefault_of_replaced hentry hdefault ?_
        rintro rfl
        exact isDefaultOf_revised_of_not_removes call.around.now hgiven hremoves hdefault

end Step

/-! ## Runs -/

theorem hasDefault_start {category : String} (h : category ∈ ["srs", "sds"]) (now : Stamp) :
    (Library.start now).HasDefault category := by
  simp only [List.mem_cons, List.not_mem_nil, or_false] at h
  rcases h with rfl | rfl
  · exact ⟨_, List.mem_cons_self, rfl⟩
  · exact ⟨_, List.mem_cons_of_mem _ List.mem_cons_self, rfl⟩

/-- Both types of specifications have a default template after every run in which no request demotes
the last one, and no request but such a one takes a type its last default template.  Of updates that
give nothing as the flag or the type of a template nothing is said. -/
theorem default_kept_until_demoted [Halves] {category : String}
    (hcategory : category ∈ ["srs", "sds"]) (rest : World) (now : Stamp) (arrivals : List Arrival) :
    let world := Api.shelf.afterAll arrivals (newService rest now)
    (Api.shelf.Along (fun arrival world => ¬Voids arrival world ∧ ¬Demotes category arrival world)
        arrivals (newService rest now) → (world.library.default? category).isSome = true) ∧
      ∀ arrival, ¬Voids arrival world → (world.library.default? category).isSome = true →
        (((Api.shelf.after arrival world).library.default? category).isSome = true ↔
          ¬Demotes category arrival world) := by
  intro world
  constructor
  · intro halong
    rw [Library.default?_isSome_iff]
    refine (Application.afterAll_of_along
      (I := fun world => world.library.Keyed ∧ world.library.HasDefault category) ?_ halong
      ⟨Library.keyed_start now, hasDefault_start hcategory now⟩).2
    rintro arrival world ⟨hfilled, hnot⟩ ⟨hkeyed, hdefault⟩
    exact ⟨(step_after arrival hkeyed).keyed hkeyed,
      hasDefault_of_not_demotes hkeyed hfilled hnot hdefault⟩
  · intro arrival hfilled hdefault
    have hkeyed : world.library.Keyed := keyed_afterAll rest now arrivals
    rw [Library.default?_isSome_iff] at hdefault ⊢
    constructor
    · intro hafter hdemotes
      exact not_hasDefault_of_demotes hkeyed hdemotes hafter
    · intro hnot
      exact hasDefault_of_not_demotes hkeyed hfilled hnot hdefault

/-! ### The default requirements specification -/

/-- The request to delete the default requirements specification. -/
def srsDeletion : Arrival :=
  asking { method := "DELETE", path := "/api/templates/00000001-0000-4000-8000-000000000001" }

set_option maxRecDepth 10000 in
theorem choice_srsDeletion_ne [Halves] (captured : List (String × String)) :
    Api.shelf.choice srsDeletion ≠ .found (.endpoint "PUT" Api.Templates.update) captured := by
  have hfound : Api.shelf.choice srsDeletion =
      .found (.endpoint "DELETE" Api.Templates.delete)
        [("template_id", "00000001-0000-4000-8000-000000000001")] := by
    with_unfolding_all rfl
  exact choice_ne_update hfound (by decide) captured

theorem not_voids_srsDeletion [Halves] (world : World) : ¬Voids srsDeletion world := by
  rintro ⟨captured, call, hchoice, -⟩
  exact choice_srsDeletion_ne captured hchoice

theorem not_demotes_srsDeletion [Halves] (category : String) (world : World) :
    ¬Demotes category srsDeletion world := by
  rintro ⟨captured, call, i, t, hchoice, -⟩
  exact choice_srsDeletion_ne captured hchoice

section

open scoped Halves.Plain

/-- It survives the request to delete it, however often it comes. -/
theorem srs_default_survives_deletion :
    Api.shelf.Along (fun arrival world => ¬Voids arrival world ∧ ¬Demotes "srs" arrival world)
        [srsDeletion] opened ∧
      ((Api.shelf.afterAll [srsDeletion] opened).library.default? "srs").isSome = true ∧
      ((Api.shelf.after srsDeletion
        (Api.shelf.afterAll [srsDeletion] opened)).library.default? "srs").isSome = true := by
  have halong : Api.shelf.Along
      (fun arrival world => ¬Voids arrival world ∧ ¬Demotes "srs" arrival world)
      [srsDeletion] opened :=
    ⟨⟨not_voids_srsDeletion opened, not_demotes_srsDeletion "srs" opened⟩, trivial⟩
  obtain ⟨hrun, hstep⟩ := default_kept_until_demoted (List.mem_cons_self (a := "srs")) _ _
    [srsDeletion]
  have hkept := hrun halong
  exact ⟨halong, hkept, (hstep srsDeletion (not_voids_srsDeletion _) hkept).mpr
    (not_demotes_srsDeletion "srs" _)⟩

end

/-- The request that takes its flag. -/
def srsDemotion : Arrival :=
  asking
    { method := "PUT", path := "/api/templates/00000001-0000-4000-8000-000000000001"
      content := .json (.record [("is_default", .bool false)]) }

section

open scoped Halves.Plain

set_option maxRecDepth 10000 in
/-- A run after which there is no default requirements specification. -/
theorem srs_default_lost_by_update :
    ((Api.shelf.afterAll [srsDemotion] opened).library.default? "srs").isSome = false := by
  decide +kernel

end

end Scriptorium.Template
