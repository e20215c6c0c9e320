import Mathlib.Data.List.Basic
import Scriptorium.Proofs.Pattern.Simple
import Scriptorium.Proofs.Template.Library
import Scriptorium.Template.Library
set_option autoImplicit false

/-!
# Rendering with variables and context at once

A template is rendered by its sections in their order, each filled with the variables of the
template and the context together.  Sections with a name that is bound nowhere are left out, and in
all others every name shows the value that it is bound to.  Nothing can fail but one thing: a
context that binds a variable of the template again is refused, as soon as there is a section to
fill.
-/

namespace Scriptorium.Template

open Outcome Pattern

/-! ## Sections in their order -/

/-- Sections sorted by their order; those of one order stand as they stood. -/
structure StablySorted (sections ordered : List Section) : Prop where
  sorted : ordered.Pairwise fun a b => a.order ≤ b.order
  stable : ∀ k, (ordered.filter fun s => s.order = k) = sections.filter fun s => s.order = k

theorem stablySorted_mergeSort (sections : List Section) :
    StablySorted sections (sections.mergeSort fun a b => a.order ≤ b.order) := by
  have htrans : ∀ a b c : Section, decide (a.order ≤ b.order) = true →
      decide (b.order ≤ c.order) = true → decide (a.order ≤ c.order) = true := by
    intro a b c hab hbc
    rw [decide_eq_true_eq] at hab hbc ⊢
    exact Int.le_trans hab hbc
  have htotal : ∀ a b : Section,
      (decide (a.order ≤ b.order) || decide (b.order ≤ a.order)) = true := by
    intro a b
    rw [Bool.or_eq_true, decide_eq_true_eq, decide_eq_true_eq]
    exact Int.le_total _ _
  constructor
  · exact (List.pairwise_mergeSort htrans htotal sections).imp of_decide_eq_true
  · intro k
    -- sections of one order are sorted as they stand, and sorting leaves sorted parts as they are
    have hsorted : (sections.filter fun s => s.order = k).Pairwise
        fun a b => decide (a.order ≤ b.order) = true := by
      rw [List.pairwise_filter]
      refine List.pairwise_of_forall fun a b ha hb => ?_
      rw [decide_eq_true_eq] at ha hb ⊢
      exact Int.le_of_eq (ha.trans hb.symm)
    have hkept := (List.sublist_mergeSort htrans htotal hsorted List.filter_sublist).filter
      fun s => s.order = k
    simp only [List.filter_filter, Bool.and_self] at hkept
    exact (hkept.eq_of_length ((List.mergeSort_perm _ _).filter _).length_eq.symm).symm

/-- Sections of one order stay as they are. -/
theorem StablySorted.eq_of_order_eq {sections ordered : List Section} {k : Int}
    (h : StablySorted sections ordered) (hk : ∀ s ∈ sections, s.order = k) :
    ordered = sections := by
  have hall : ∀ s ∈ ordered, s.order = k := by
    intro s hs
    have hmem : s ∈ ordered.filter fun other => other.order = s.order := by simp [hs]
    rw [h.stable] at hmem
    exact hk s (List.mem_filter.mp hmem).1
  have hsame := h.stable k
  rwa [List.filter_eq_self.mpr fun s hs => decide_eq_true (hall s hs),
    List.filter_eq_self.mpr fun s hs => decide_eq_true (hk s hs)] at hsame

/-! ## The text of a section -/

/-- The text of a section: its title and what it says, behind a comment with its identifier if the
sections are marked. -/
def sectionText (marked : Bool) (s : Section) (body : String) : String :=
  (if marked then "<!-- section:" ++ s.id ++ " -->\n" else "") ++ "# " ++ s.title ++ "\n\n" ++ body

theorem sectionText_eq (marked : Bool) (s : Section) (body : String) :
    s!"{(if marked then markedTitle else title) s}\n\n{body}" = sectionText marked s body := by
  cases marked with
  | false =>
      show "# " ++ s.title ++ "\n\n" ++ body = _
      simp [sectionText]
  | true =>
      show "<!-- section:" ++ s.id ++ " -->\n" ++ ("# " ++ s.title) ++ "\n\n" ++ body = _
      simp only [sectionText, if_true, String.append_assoc]

/-- Sections that are filled or miss a name are written, those that miss one apart. -/
theorem write_of_gives {fill : Section → Outcome String} {body? : Section → Option String}
    (heading : Section → String) {sections : List Section}
    (h : ∀ s ∈ sections, Gives (fill s) (body? s)) :
    write fill heading sections =
      .ok (sections.filterMap fun s => (body? s).map fun body => s!"{heading s}\n\n{body}") := by
  induction sections with
  | nil => rfl
  | cons s rest ih =>
      rw [List.forall_mem_cons] at h
      have hfirst := h.1
      rw [write, List.filterMap_cons, ih h.2]
      generalize fill s = filled at hfirst
      generalize body? s = body at hfirst
      cases hfirst with
      | missing name => rfl
      | value body => rfl

/-! ## Variables and context together -/

section Joined

variable {own given : Fields}

theorem joinedBindings_of_disjoint
    (h : ∀ name ∈ Fields.names given, name ∉ Fields.names own) :
    joinedBindings (.record own) (.record given) = .ok (own ++ given) := by
  have hfree : given.find? (fun entry => Fields.has own entry.1) = none := by
    rw [List.find?_eq_none]
    intro entry hentry hbound
    exact h entry.1 (List.mem_map.mpr ⟨entry, hentry, rfl⟩) ((Fields.has_eq_true_iff _ _).mp hbound)
  simp only [joinedBindings, bindingsOf, bind, Except.bind, hfree]
  rfl

/-- A name that is bound by both is refused. -/
theorem joinedBindings_of_common
    (h : ∃ name ∈ Fields.names given, name ∈ Fields.names own) :
    ∃ name ∈ Fields.names given, name ∈ Fields.names own ∧
      joinedBindings (.record own) (.record given) = .error (.pattern (.boundTwice name)) := by
  obtain ⟨name, hgiven, hown⟩ := h
  obtain ⟨entry, hentry, rfl⟩ := List.mem_map.mp hgiven
  have hfound : (given.find? fun entry => Fields.has own entry.1).isSome = true :=
    List.find?_isSome.mpr ⟨entry, hentry, (Fields.has_eq_true_iff _ _).mpr hown⟩
  obtain ⟨⟨again, value⟩, hfind⟩ := Option.isSome_iff_exists.mp hfound
  have hagain : Fields.has own again = true := by simpa using List.find?_some hfind
  refine ⟨again, List.mem_map.mpr ⟨_, List.mem_of_find?_eq_some hfind, rfl⟩,
    (Fields.has_eq_true_iff _ _).mp hagain, ?_⟩
  simp only [joinedBindings, bindingsOf, bind, Except.bind, hfind]
  rfl

/-- Where no name is bound by both, it does not matter whose bindings come first. -/
theorem shows?_comm [Halves] (h : ∀ name ∈ Fields.names given, name ∉ Fields.names own)
    (content : String) :
    shows? (own ++ given) content = shows? (given ++ own) content := by
  have hget : ∀ name, Fields.get? (own ++ given) name = Fields.get? (given ++ own) name := by
    intro name
    rw [Fields.get?_append, Fields.get?_append]
    cases hgiven : Fields.get? given name with
    | none => rw [Option.or_none, Option.none_or]
    | some v =>
        have hbound : name ∈ Fields.names given := (Fields.mem_names_iff _ _).mpr ⟨v, hgiven⟩
        rw [(Fields.get?_eq_none_iff own name).mpr (h name hbound), Option.none_or, Option.some_or]
  have hpiece : Piece.shown? (own ++ given) = Piece.shown? (given ++ own) := by
    funext piece
    cases piece with
    | literal text => rfl
    | field name conversion layout => rw [Piece.shown?, Piece.shown?, hget]
  rw [shows?, shows?, hpiece]

end Joined

/-! ## Templates -/

theorem contextOf_record (fields : Fields) : contextOf (.record fields) = .record fields := by
  cases fields <;> rfl

section Render

variable {t : Template} {sections : List Section} {own given : Fields} {context : Value}
  (hsections : t.sections = .known sections) (hown : t.bindings = .record own)
  (hcontext : contextOf context = .record given) (marked : Bool)

include hsections hown hcontext

/-- The sections of a template are written with what its variables and the context bind. -/
theorem render_eq_write [Halves] : t.render context marked =
    (write (fun s => joinedBindings (.record own) (.record given) >>= fun bindings =>
        fill bindings s.content) (if marked then markedTitle else title)
      (sections.mergeSort fun a b => a.order ≤ b.order)).map ("\n\n".intercalate ·) := by
  unfold render
  rw [hsections, hown, hcontext]
  simp only [Sections.ordered, bind, Except.bind]
  cases write _ _ (sections.mergeSort fun a b => a.order ≤ b.order) <;> rfl

/-- With simple contents and a context that binds no variable, rendering succeeds. -/
theorem render_of_simple [Halves] (hdisjoint : ∀ name ∈ Fields.names given, name ∉ Fields.names own)
    (hsimple : ∀ s ∈ sections, isSimple s.content = true) :
    t.render context marked = .ok ("\n\n".intercalate
      ((sections.mergeSort fun a b => a.order ≤ b.order).filterMap fun s =>
        (shows? (given ++ own) s.content).map (sectionText marked s))) := by
  have hgives : ∀ s ∈ sections.mergeSort fun a b => a.order ≤ b.order,
      Gives (fill (own ++ given) s.content) (shows? (given ++ own) s.content) := by
    intro s hs
    rw [← shows?_comm hdisjoint]
    exact fill_shows _ (hsimple s (List.mem_mergeSort.mp hs))
  rw [render_eq_write hsections hown hcontext, joinedBindings_of_disjoint hdisjoint]
  simp only [bind, Except.bind]
  rw [write_of_gives _ hgives]
  simp only [sectionText_eq]
  rfl

/-- A context that binds a variable again is refused, if there is a section to fill. -/
theorem render_of_common [Halves] (hne : sections ≠ [])
    (hcommon : ∃ name ∈ Fields.names given, name ∈ Fields.names own) :
    ∃ name ∈ Fields.names given, name ∈ Fields.names own ∧
      t.render context marked = .error (.pattern (.boundTwice name)) := by
  obtain ⟨name, hgiven, htwice, hjoined⟩ := joinedBindings_of_common hcommon
  refine ⟨name, hgiven, htwice, ?_⟩
  have hordered : (sections.mergeSort fun a b => a.order ≤ b.order) ≠ [] := by
    intro hnil
    exact hne (List.nil_perm.mp (hnil ▸ List.mergeSort_perm sections _))
  obtain ⟨first, rest, hcons⟩ := List.exists_cons_of_ne_nil hordered
  rw [render_eq_write hsections hown hcontext, hcons, hjoined]
  rfl

end Render

theorem Library.render_of_find [Halves] {lib : Library} {id : Value} {t : Template}
    (h : lib.find id = .ok (some t)) (context : Value) (marked : Bool) :
    lib.render id context marked = t.render context marked := by
  rw [Library.render, h]
  rfl

/-! ### Short notes -/

/-- A template with variables and contents. -/
def note (own : List (String × String)) (contents : List String) : Template where
  id := .ident .nil
  name := .text "Note"
  description := .text ""
  category := .known "custom"
  isDefault := .bool false
  createdBy := .null
  version := .text "1.0.0"
  sections := .known (contents.map fun content =>
    { id := "s", title := "T", content, description := .null, bindings := .list [], order := 0
      required := true })
  bindings := .record (texts own)
  createdAt := .stamp ⟨0, none⟩
  updatedAt := .stamp ⟨0, none⟩

theorem find_note [Halves] (t : Template) :
    Library.find ⟨[(.ident .nil, t)]⟩ (.ident .nil) = .ok (some t) := by
  rw [Library.find, Library.readId_nil]
  rfl

/-! ## Names that are bound again -/

/-- A template with simple contents is rendered if and only if it has no section or the context
binds none of its variables again.  Then every name shows the value of the context if this binds it,
and that of the variable otherwise; sections with a name that neither binds are left out.  Otherwise
the fault is a name that is bound twice. -/
theorem rendered_unless_bound_again [Halves] {lib : Library} {id : Value} {t : Template}
    {sections : List Section} {own given : Fields} {context : Value}
    (hfind : lib.find id = .ok (some t)) (hsections : t.sections = .known sections)
    (hown : t.bindings = .record own) (hcontext : contextOf context = .record given)
    (hsimple : ∀ s ∈ sections, isSimple s.content = true) (marked : Bool) :
    ((∃ text, lib.render id context marked = .ok text) ↔
        sections = [] ∨ ∀ name ∈ Fields.names given, name ∉ Fields.names own) ∧
      (∀ text, lib.render id context marked = .ok text →
        ∃ ordered, StablySorted sections ordered ∧
          text = "\n\n".intercalate (ordered.filterMap fun s =>
            (shows? (given ++ own) s.content).map (sectionText marked s))) ∧
      ∀ fault, lib.render id context marked = .error fault →
        ∃ name ∈ Fields.names given, name ∈ Fields.names own ∧
          fault = .pattern (.boundTwice name) := by
  rw [Library.render_of_find hfind]
  have hordered := stablySorted_mergeSort sections
  by_cases hdisjoint : ∀ name ∈ Fields.names given, name ∉ Fields.names own
  · have hrender := render_of_simple hsections hown hcontext marked hdisjoint hsimple
    rw [hrender]
    refine ⟨⟨fun _ => .inr hdisjoint, fun _ => ⟨_, rfl⟩⟩, ?_, ?_⟩
    · rintro text htext
      exact ⟨_, hordered, (Except.ok.inj htext).symm⟩
    · intro fault hfault
      cases hfault
  · have hcommon : ∃ name ∈ Fields.names given, name ∈ Fields.names own := by
      simpa using hdisjoint
    by_cases hempty : sections = []
    · have hrender : t.render context marked = .ok "" := by
        rw [render_eq_write hsections hown hcontext, hempty, List.mergeSort_nil]
        rfl
      rw [hrender]
      refine ⟨⟨fun _ => .inl hempty, fun _ => ⟨_, rfl⟩⟩, ?_, ?_⟩
      · rintro text htext
        refine ⟨_, hordered, ?_⟩
        rw [hempty, List.mergeSort_nil]
        exact (Except.ok.inj htext).symm
      · intro fault hfault
        cases hfault
    · obtain ⟨name, hgiven, htwice, hrender⟩ :=
        render_of_common hsections hown hcontext marked hempty hcommon
      rw [hrender]
      refine ⟨⟨?_, ?_⟩, ?_, ?_⟩
      · rintro ⟨text, htext⟩
        cases htext
      · rintro (hnone | hall)
        · exact absurd hnone hempty
        · exact absurd htwice (hall name hgiven)
      · intro text htext
        cases htext
      · intro fault hfault
        exact ⟨name, hgiven, htwice, (Except.error.inj hfault).symm⟩

section

open scoped Halves.Plain

/-- A note with one name from its variables and one from the context, and with a name that is bound
nowhere. -/
theorem ann_greeted_from_bath :
    (∀ content ∈ ["Dear \x7bname\x7d of \x7bplace\x7d", "From \x7bnowhere\x7d"],
      isSimple content = true) ∧
    ∃ text, Library.render ⟨[(.ident .nil, note [("name", "Ann")]
        ["Dear \x7bname\x7d of \x7bplace\x7d", "From \x7bnowhere\x7d"])]⟩
        (.ident .nil) (.record [("place", .text "Bath")]) false = .ok text := by
  have hsimple : ∀ content ∈ ["Dear \x7bname\x7d of \x7bplace\x7d", "From \x7bnowhere\x7d"],
      isSimple content = true := by
    decide +kernel
  refine ⟨hsimple, (rendered_unless_bound_again (find_note _) rfl rfl (contextOf_record _) ?_
    false).1.mpr (.inr (by decide))⟩
  rw [List.forall_mem_map]
  exact hsimple

/-- The name of the project in the default requirements specification cannot be given by a
context. -/
theorem project_name_not_given :
    isSimple Library.introduction.content = true ∧
      (Library.start ⟨0, none⟩).render (.ident (Ident.ofSupply 1))
        (.record [("project_name", .text "Atlas")]) false =
          .error (.pattern (.boundTwice "project_name")) := by
  obtain ⟨name, hgiven, -, hrender⟩ := render_of_common
    (t := Library.standardRequirements ⟨0, none⟩) rfl rfl
    (contextOf_record [("project_name", .text "Atlas")]) false (List.cons_ne_nil _ _)
    ⟨"project_name", by decide, by decide⟩
  obtain rfl := List.mem_singleton.mp hgiven
  refine ⟨by decide +kernel, ?_⟩
  rw [Library.render_of_find (Library.find_standardRequirements _), hrender]

end

/-! ## Contents from parts -/

/-- A template whose contents are spelled from texts and identifiers, rendered with a context that
binds no variable again: all sections whose names are bound, in their order, with their texts as
they were before the braces were doubled and the bound texts as they are. -/
theorem rendered_from_parts [Halves] {lib : Library} {id : Value} {t : Template}
    {sections : List Section}
    {own given : List (String × String)} {context : Value} {parts : Section → List Part}
    (hfind : lib.find id = .ok (some t)) (hsections : t.sections = .known sections)
    (hown : t.bindings = .record (texts own)) (hcontext : contextOf context = .record (texts given))
    (hdisjoint : ∀ name ∈ Fields.names given, name ∉ Fields.names own)
    (hparts : ∀ s ∈ sections, s.content = spelled (parts s) ∧
      ∀ part ∈ parts s, part.isProper = true) (marked : Bool) :
    ∃ ordered, StablySorted sections ordered ∧
      lib.render id context marked = .ok ("\n\n".intercalate
        ((ordered.filter fun s => (parts s).all (Part.isBound (own ++ given))).map fun s =>
          sectionText marked s (String.join ((parts s).map (Part.shown (own ++ given)))))) := by
  have hnames : ∀ name ∈ Fields.names (texts given), name ∉ Fields.names (texts own) := by
    rwa [names_texts, names_texts]
  have hsimple : ∀ s ∈ sections, isSimple s.content = true := by
    intro s hs
    rw [(hparts s hs).1]
    exact isSimple_spelled (hparts s hs).2
  have hshown : ∀ s ∈ sections.mergeSort fun a b => a.order ≤ b.order,
      (shows? (texts given ++ texts own) s.content).map (sectionText marked s) =
        if (parts s).all (Part.isBound (own ++ given)) then
          some (sectionText marked s (String.join ((parts s).map (Part.shown (own ++ given)))))
        else none := by
    intro s hs
    obtain ⟨hcontent, hproper⟩ := hparts s (List.mem_mergeSort.mp hs)
    rw [← shows?_comm hnames, ← texts_append, hcontent, shows?_spelled _ hproper]
    split <;> rfl
  refine ⟨_, stablySorted_mergeSort sections, ?_⟩
  rw [Library.render_of_find hfind,
    render_of_simple hsections hown hcontext marked hnames hsimple, List.filterMap_congr hshown,
    ← List.filterMap_filter, List.filterMap_eq_map']

section

open scoped Halves.Plain

/-- A note with braces in a text and in a bound text, and with a name that is bound nowhere. -/
theorem braces_shown_as_given :
    let greeting : List Part := [.text "a\x7b", .field "x", .text "\x7d", .field "y"]
    let lost : List Part := [.text "b", .field "nowhere"]
    Library.render ⟨[(.ident .nil, note [("x", "\x7b0\x7d")] [spelled greeting, spelled lost])]⟩
        (.ident .nil) (.record (texts [("y", "c")])) true =
      .ok "<!-- section:s -->\n# T\n\na\x7b\x7b0\x7d\x7dc" := by
  intro greeting lost
  let parts : Section → List Part := fun s =>
    if s.content = spelled greeting then greeting else lost
  have hparts : ∀ s ∈ [spelled greeting, spelled lost].map fun content : String =>
        ({ id := "s", title := "T", content, description := .null, bindings := .list [], order := 0
           required := true } : Section),
      s.content = spelled (parts s) ∧ ∀ part ∈ parts s, part.isProper = true := by
    rw [List.forall_mem_map]
    decide +kernel
  obtain ⟨ordered, hsorted, hrender⟩ := rendered_from_parts
    (find_note (note [("x", "\x7b0\x7d")] [spelled greeting, spelled lost])) rfl rfl
    (contextOf_record (texts [("y", "c")])) (by decide) hparts true
  rw [hrender, hsorted.eq_of_order_eq (k := 0) (by simp)]
  exact congrArg Except.ok (by decide +kernel)

end

end Scriptorium.Template
