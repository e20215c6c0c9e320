import Scriptorium.Proofs.Template.Library
set_option autoImplicit false

/-!
# Sections as an ordered map

The sections of a template are a list.  As long as no two of them have the same identifier, adding
and removing sections makes the list an ordered map: `Contents` gives the identifiers in the order
in which they came in, and the section under each.  A section under a known identifier takes the
place of the old one, a new one goes last, and removing one leaves all others where they stand.
-/

namespace Scriptorium.Template

/-! ## Ordered maps -/

/-- Sections by their identifiers: the identifiers in order, and the section under each. -/
@[ext]
structure Contents where
  order : List String
  under : String → Option Section

namespace Contents

/-- What a list of sections holds. -/
def of (sections : List Section) : Contents where
  order := sections.map (·.id)
  under id := sections.find? (·.id = id)

/-- Puts a section under its identifier; a new identifier goes last. -/
def put (c : Contents) (s : Section) : Contents where
  order := if s.id ∈ c.order then c.order else c.order ++ [s.id]
  under id := if id = s.id then some s else c.under id

/-- Takes out an identifier. -/
def drop (c : Contents) (id : String) : Contents where
  order := c.order.erase id
  under other := if other = id then none else c.under other

theorem nodup_put {c : Contents} (h : c.order.Nodup) (s : Section) : (c.put s).order.Nodup := by
  simp only [put]
  split
  · exact h
  · rename_i hnew
    rw [List.nodup_append]
    refine ⟨h, by simp, ?_⟩
    intro id hid last hlast
    obtain rfl := List.mem_singleton.mp hlast
    exact ne_of_mem_of_not_mem hid hnew

theorem nodup_drop {c : Contents} (h : c.order.Nodup) (id : String) : (c.drop id).order.Nodup :=
  h.erase id

end Contents

/-! ## Adding and removing in a list -/

section Lists

variable {sections front back : List Section} {s old : Section}

/-- A section whose identifier is new goes last. -/
theorem putSection_of_not_mem (h : s.id ∉ sections.map (·.id)) :
    putSection sections s = sections ++ [s] := by
  induction sections with
  | nil => rfl
  | cons first rest ih =>
      rw [List.map_cons, List.mem_cons, not_or] at h
      rw [putSection, if_neg (Ne.symm h.1), ih h.2, List.cons_append]

/-- A section takes the place of the first one with its identifier. -/
theorem putSection_split (hfront : s.id ∉ front.map (·.id)) (hid : old.id = s.id) :
    putSection (front ++ old :: back) s = front ++ s :: back := by
  induction front with
  | nil => rw [List.nil_append, putSection, if_pos hid, List.nil_append]
  | cons first rest ih =>
      rw [List.map_cons, List.mem_cons, not_or] at hfront
      rw [List.cons_append, putSection, if_neg (Ne.symm hfront.1), ih hfront.2, List.cons_append]

/-- Where identifiers differ, a section is the only one with its own. -/
theorem not_mem_of_split (hdistinct : ((front ++ old :: back).map (·.id)).Nodup) :
    old.id ∉ front.map (·.id) ∧ old.id ∉ back.map (·.id) := by
  rw [List.map_append, List.map_cons, List.nodup_append] at hdistinct
  obtain ⟨-, hback, hapart⟩ := hdistinct
  exact ⟨fun hmem => hapart _ hmem _ List.mem_cons_self rfl, (List.nodup_cons.mp hback).1⟩

theorem filter_ne_of_not_mem {id : String} (h : id ∉ sections.map (·.id)) :
    sections.filter (fun s => s.id ≠ id) = sections := by
  rw [List.filter_eq_self]
  intro s hs
  exact decide_eq_true fun hid => h (List.mem_map.mpr ⟨s, hs, hid⟩)

/-- Removing an identifier takes out the section that has it. -/
theorem filter_ne_split (hdistinct : ((front ++ old :: back).map (·.id)).Nodup) :
    (front ++ old :: back).filter (fun s => s.id ≠ old.id) = front ++ back := by
  obtain ⟨hfront, hback⟩ := not_mem_of_split hdistinct
  rw [List.filter_append, List.filter_cons_of_neg (by simp), filter_ne_of_not_mem hfront,
    filter_ne_of_not_mem hback]

end Lists

/-! ## Lists as ordered maps -/

section Lists

variable (sections : List Section)

theorem ids_putSection (s : Section) :
    (putSection sections s).map (·.id) =
      if s.id ∈ sections.map (·.id) then sections.map (·.id)
      else sections.map (·.id) ++ [s.id] := by
  induction sections with
  | nil => rfl
  | cons first rest ih =>
      rw [putSection]
      by_cases hid : first.id = s.id
      · simp [hid]
      · rw [if_neg hid, List.map_cons, ih]
        simp only [List.map_cons, List.mem_cons, Ne.symm hid, false_or]
        split <;> rfl

theorem find?_putSection (s : Section) (id : String) :
    (putSection sections s).find? (·.id = id) =
      if id = s.id then some s else sections.find? (·.id = id) := by
  induction sections with
  | nil => simp [putSection, eq_comm]
  | cons first rest ih =>
      rw [putSection]
      by_cases hid : first.id = s.id
      · rw [if_pos hid, List.find?_cons, List.find?_cons, hid]
        by_cases hs : s.id = id <;> simp [hs, Ne.symm]
      · rw [if_neg hid, List.find?_cons, List.find?_cons, ih]
        by_cases hfirst : first.id = id
        · subst hfirst
          simp [hid]
        · simp [hfirst]

theorem find?_filter_ne (id other : String) :
    (sections.filter fun s => s.id ≠ id).find? (·.id = other) =
      if other = id then none else sections.find? (·.id = other) := by
  rw [List.find?_filter]
  by_cases hother : other = id
  · simp [hother]
  · have hsame : ∀ s : Section, (decide (s.id ≠ id) = true ∧ decide (s.id = other) = true) ↔
        s.id = other := by
      intro s
      simp only [decide_eq_true_eq, and_iff_right_iff_imp]
      exact fun hs => hs ▸ hother
    simp only [hsame, hother, if_false]

end Lists

namespace Contents

theorem of_putSection (sections : List Section) (s : Section) :
    of (putSection sections s) = (of sections).put s := by
  ext1
  · exact ids_putSection sections s
  · exact funext (find?_putSection sections s)

theorem of_filter_ne {sections : List Section} (hdistinct : (sections.map (·.id)).Nodup)
    (id : String) : of (sections.filter fun s => s.id ≠ id) = (of sections).drop id := by
  ext1
  · simp only [of, drop, hdistinct.erase_eq_filter, List.filter_map]
    refine congrArg (List.map Section.id) (List.filter_congr fun s _ => ?_)
    rw [Bool.eq_iff_iff]
    simp
  · exact funext (find?_filter_ne sections id)

end Contents

/-! ## Edits -/

/-- A change to the sections of a template. -/
inductive Edit where
  | add (s : Section)
  | remove (id : String)

namespace Edit

/-- The identifier that an edit is about. -/
def key : Edit → String
  | add s => s.id
  | remove id => id

/-- What an edit makes of a template. -/
def perform (t : Template) (now : Stamp) : Edit → Outcome Template
  | add s => t.addSection s now
  | remove id => (t.removeSection (.text id) now).map (·.1)

/-- What an edit makes of an ordered map. -/
def revise (c : Contents) : Edit → Contents
  | add s => c.put s
  | remove id => c.drop id

end Edit

theorem Edit.nodup_revise {c : Contents} (h : c.order.Nodup) (edit : Edit) :
    (edit.revise c).order.Nodup := by
  cases edit with
  | add s => exact Contents.nodup_put h s
  | remove id => exact Contents.nodup_drop h id

/-- The template after edits, each with the moment at which it is made. -/
def edited (t : Template) (edits : List (Stamp × Edit)) : Outcome Template :=
  edits.foldlM (fun t made => made.2.perform t made.1) t

/-- The ordered map after edits. -/
def Contents.edited (c : Contents) (edits : List (Stamp × Edit)) : Contents :=
  edits.foldl (fun c made => made.2.revise c) c

section Steps

variable {t : Template} {sections : List Section} (hknown : t.sections = .known sections)
  (now : Stamp)

include hknown

theorem addSection_eq (s : Section) :
    t.addSection s now =
      .ok { t with sections := .known (putSection sections s), updatedAt := .stamp now } := by
  rw [addSection, hknown]
  rfl

/-- Removing says whether the identifier was there, and changes nothing otherwise. -/
theorem removeSection_eq (id : String) :
    t.removeSection (.text id) now =
      .ok (if id ∈ sections.map (·.id) then
        ({ t with sections := .known (sections.filter fun s => s.id ≠ id)
                  updatedAt := .stamp now }, true)
      else (t, false)) := by
  have hfilter : (sections.filter fun s => !(Value.text s.id).same (.text id)) =
      sections.filter fun s => s.id ≠ id := by
    refine List.filter_congr fun s _ => ?_
    rw [Bool.eq_iff_iff, Bool.not_eq_true', Bool.eq_false_iff, ne_eq, Value.text_same_iff,
      Value.text.injEq, decide_eq_true_eq]
  rw [removeSection, hknown]
  simp only [hfilter]
  by_cases hmem : id ∈ sections.map (·.id)
  · obtain ⟨s, hs, hid⟩ := List.mem_map.mp hmem
    have hshorter : (sections.filter fun s => s.id ≠ id).length < sections.length :=
      List.length_filter_lt_length_iff_exists.mpr ⟨s, hs, by simp [hid]⟩
    rw [if_pos hshorter, if_pos hmem]
    rfl
  · rw [filter_ne_of_not_mem hmem, if_neg (Nat.lt_irrefl _), if_neg hmem, ← hknown]
    rfl

/-- An edit does to the sections what it does to the map. -/
theorem perform_eq (hdistinct : (sections.map (·.id)).Nodup) (edit : Edit) :
    ∃ after kept, edit.perform t now = .ok after ∧ after.sections = .known kept ∧
      Contents.of kept = edit.revise (.of sections) := by
  cases edit with
  | add s =>
      exact ⟨_, putSection sections s, addSection_eq hknown now s, rfl,
        Contents.of_putSection sections s⟩
  | remove id =>
      have hdrop := Contents.of_filter_ne hdistinct id
      rw [Edit.perform, removeSection_eq hknown now]
      by_cases hmem : id ∈ sections.map (·.id)
      · rw [if_pos hmem]
        exact ⟨_, sections.filter fun s => s.id ≠ id, rfl, rfl, hdrop⟩
      · rw [if_neg hmem]
        rw [filter_ne_of_not_mem hmem] at hdrop
        exact ⟨t, sections, rfl, hknown, hdrop⟩

end Steps

/-- A run of edits keeps the identifiers apart and does to the sections what it does to the map. -/
theorem edited_eq {t : Template} {sections : List Section} (hknown : t.sections = .known sections)
    (hdistinct : (sections.map (·.id)).Nodup) (edits : List (Stamp × Edit)) :
    ∃ last kept, t.edited edits = .ok last ∧ last.sections = .known kept ∧
      (kept.map (·.id)).Nodup ∧ Contents.of kept = (Contents.of sections).edited edits := by
  induction edits generalizing t sections with
  | nil => exact ⟨t, sections, rfl, hknown, hdistinct, rfl⟩
  | cons made rest ih =>
      obtain ⟨after, between, hafter, hbetween, hof⟩ :=
        perform_eq hknown made.1 hdistinct made.2
      have hapart : (Contents.of between).order.Nodup := by
        rw [hof]
        exact Edit.nodup_revise hdistinct made.2
      obtain ⟨last, kept, hlast, hkept, hnodup, hcontents⟩ := ih hbetween hapart
      refine ⟨last, kept, ?_, hkept, hnodup, ?_⟩
      · rw [edited, List.foldlM_cons, hafter]
        exact hlast
      · rw [hcontents, hof]
        rfl

/-- Edits about other identifiers leave what stands under an identifier. -/
theorem Contents.under_edited_of_ne {id : String} {edits : List (Stamp × Edit)}
    (h : ∀ made ∈ edits, made.2.key ≠ id) (c : Contents) :
    (c.edited edits).under id = c.under id := by
  induction edits generalizing c with
  | nil => rfl
  | cons made rest ih =>
      rw [List.forall_mem_cons] at h
      have hother : (made.2.revise c).under id = c.under id := by
        obtain ⟨now, edit⟩ := made
        cases edit with
        | add s => exact if_neg (Ne.symm h.1)
        | remove other => exact if_neg (Ne.symm h.1)
      exact (ih h.2 _).trans hother

/-- The sections of a template with different identifiers are an ordered map, through every run of
edits: the identifiers stay different, a section goes to the place of the one with its identifier or
last, removing takes out the one section that has the identifier and says whether there was one, and
a section stays under its identifier until an edit is about it.  The time of the last change is set
whenever a section is added, or removed. -/
theorem sections_are_ordered_map (t : Template) {sections : List Section}
    (hknown : t.sections = .known sections) (hdistinct : (sections.map (·.id)).Nodup)
    (edits : List (Stamp × Edit)) :
    ∃ (last : Template) (kept : List Section),
      t.edited edits = .ok last ∧ last.sections = .known kept ∧ (kept.map (·.id)).Nodup ∧
      Contents.of kept = (Contents.of sections).edited edits ∧
      (∀ (s : Section) (now : Stamp),
        (∀ front old back, kept = front ++ old :: back → old.id = s.id →
          last.addSection s now = .ok
            { last with sections := .known (front ++ s :: back), updatedAt := .stamp now }) ∧
        (s.id ∉ kept.map (·.id) →
          last.addSection s now = .ok
            { last with sections := .known (kept ++ [s]), updatedAt := .stamp now })) ∧
      (∀ (id : String) (now : Stamp),
        (∀ front old back, kept = front ++ old :: back → old.id = id →
          last.removeSection (.text id) now = .ok
            ({ last with sections := .known (front ++ back), updatedAt := .stamp now }, true)) ∧
        (id ∉ kept.map (·.id) → last.removeSection (.text id) now = .ok (last, false))) ∧
      ∀ earlier now s later, edits = earlier ++ (now, .add s) :: later →
        (∀ made ∈ later, made.2.key ≠ s.id) → kept.find? (·.id = s.id) = some s := by
  obtain ⟨last, kept, hlast, hkept, hnodup, hcontents⟩ := edited_eq hknown hdistinct edits
  refine ⟨last, kept, hlast, hkept, hnodup, hcontents, ?_, ?_, ?_⟩
  · intro s now
    rw [addSection_eq hkept]
    constructor
    · rintro front old back rfl hid
      rw [putSection_split (hid ▸ (not_mem_of_split hnodup).1) hid]
    · intro hnew
      rw [putSection_of_not_mem hnew]
  · intro id now
    rw [removeSection_eq hkept]
    constructor
    · rintro front old back rfl rfl
      rw [if_pos (by simp), filter_ne_split hnodup]
    · intro habsent
      rw [if_neg habsent]
  · rintro earlier now s later rfl hlater
    have hunder := congrFun (congrArg Contents.under hcontents) s.id
    have hput : (((Contents.of sections).edited earlier).put s).under s.id = some s := if_pos rfl
    refine hunder.trans (Eq.trans ?_ hput)
    rw [Contents.edited, List.foldl_append, List.foldl_cons]
    exact Contents.under_edited_of_ne hlater _

/-- A section on the scope of a project. -/
def scope : Section := { Library.introduction with id := "scope", title := "2. Scope" }

/-- In the default requirements specification the scope takes the place of the introduction. -/
theorem scope_found_without_introduction :
    let t := Library.standardRequirements ⟨0, none⟩
    let edits : List (Stamp × Edit) :=
      [(⟨1, none⟩, .remove "introduction"), (⟨2, none⟩, .add scope)]
    t.sections = .known [Library.introduction] ∧ ([Library.introduction].map (·.id)).Nodup ∧
      ∃ last kept, t.edited edits = .ok last ∧ last.sections = .known kept ∧
        kept.find? (·.id = "scope") = some scope ∧
        last.removeSection (.text "introduction") ⟨3, none⟩ = .ok (last, false) := by
  intro t edits
  have hknown : t.sections = .known [Library.introduction] := rfl
  obtain ⟨last, kept, hlast, hkept, -, hcontents, -, hremove, hfound⟩ :=
    sections_are_ordered_map t hknown (by simp) edits
  have hids : kept.map (·.id) = ["scope"] := (congrArg Contents.order hcontents).trans (by decide)
  have habsent : "introduction" ∉ kept.map (·.id) := by
    rw [hids]
    decide
  refine ⟨hknown, by simp, last, kept, hlast, hkept, ?_, (hremove "introduction" _).2 habsent⟩
  exact hfound [(⟨1, none⟩, .remove "introduction")] ⟨2, none⟩ scope [] rfl (by simp)

end Scriptorium.Template
