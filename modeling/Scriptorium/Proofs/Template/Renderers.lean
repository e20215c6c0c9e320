import Scriptorium.Proofs.Template.Rendering
set_option autoImplicit false

/-!
# The two ways of rendering

A template is rendered with its variables and the context at once, or with the variables first and
what that gives with the context.  The second way leaves out every section with a name that only the
context binds, and takes braces in what the variables give for fields.  The two ways agree on a
section exactly if neither happens, or if a name is bound nowhere.
-/

namespace Scriptorium.Template

open Pattern

/-- A name is bound nowhere; or a template's own variables bind all names, and what they give, read
as a pattern, gives itself with the context. -/
def Settled [Halves] (own context : List (String × String)) (content : String) : Prop :=
  expand? (own ++ context) content = none ∨
    ∃ text, expand? own content = some text ∧ fill (texts context) text = .ok text

/-- A content filled with the variables first, and what that gives with the context. -/
def fillInTurn [Halves] (own context : List (String × String)) (content : String) :
    Outcome String := do
  fill (texts context) (← fill (texts own) content)

/-! ## Sections -/

section Content

variable {own context : List (String × String)} {content : String}

/-- A piece that the variables fill is filled with the same by variables and context together. -/
theorem text?_append {piece : Piece} {text : String} (h : piece.text? own = some text) :
    piece.text? (own ++ context) = some text := by
  cases piece with
  | literal text => exact h
  | field name conversion layout =>
      simp only [Piece.text?] at h ⊢
      rw [Fields.get?_append, h, Option.some_or]

theorem mapM_text?_append {found : List Piece} {parts : List String}
    (h : found.mapM (Piece.text? own) = some parts) :
    found.mapM (Piece.text? (own ++ context)) = some parts := by
  induction found generalizing parts with
  | nil => exact h
  | cons piece rest ih =>
      simp only [List.mapM_cons, Option.bind_eq_bind, Option.bind_eq_some_iff, Option.pure_def,
        Option.some.injEq] at h ⊢
      obtain ⟨first, hfirst, later, hlater, rfl⟩ := h
      exact ⟨first, text?_append hfirst, later, ih hlater, rfl⟩

/-- What the variables give, variables and context give together. -/
theorem expand?_append {text : String} (h : expand? own content = some text) :
    expand? (own ++ context) content = some text := by
  obtain ⟨parts, hparts, rfl⟩ := Option.map_eq_some_iff.mp h
  rw [expand?, mapM_text?_append hparts, Option.map_some]

/-- The two ways of filling give the same, or both miss a name, exactly where all is settled. -/
theorem exists_gives_iff_settled [Halves] (h : isSimple content = true) :
    (∃ result, Gives (fill (texts (own ++ context)) content) result ∧
      Gives (fillInTurn own context content) result) ↔
      Settled own context content := by
  have hjoint := fill_simple (own ++ context) h
  have hfirst := fill_simple own h
  constructor
  · rintro ⟨result, honce, hturn⟩
    obtain rfl := honce.unique hjoint
    cases hboth : expand? (own ++ context) content with
    | none => exact .inl hboth
    | some text =>
        rw [hboth, gives_some_iff, fillInTurn] at hturn
        cases hown : expand? own content with
        | none =>
            rw [hown, gives_none_iff] at hfirst
            obtain ⟨name, hmissing⟩ := hfirst
            rw [hmissing] at hturn
            cases hturn
        | some once =>
            have hsame : some once = some text :=
              (expand?_append hown).symm.trans hboth
            obtain rfl := Option.some.inj hsame
            rw [hown, gives_some_iff] at hfirst
            rw [hfirst] at hturn
            exact .inr ⟨once, hown, hturn⟩
  · rintro (hnone | ⟨text, hown, hself⟩)
    · have hunbound : expand? own content = none := by
        cases hown : expand? own content with
        | none => rfl
        | some text => simp [expand?_append hown] at hnone
      rw [hunbound, gives_none_iff] at hfirst
      obtain ⟨name, hmissing⟩ := hfirst
      refine ⟨none, hnone ▸ hjoint, ?_⟩
      rw [fillInTurn, hmissing]
      exact .missing name
    · rw [hown, gives_some_iff] at hfirst
      refine ⟨some text, expand?_append hown ▸ hjoint, ?_⟩
      rw [fillInTurn, hfirst]
      exact gives_some_iff.mpr hself

end Content

/-! ## Templates -/

/-- Sections that are filled alike are written alike. -/
theorem write_alike {first second : Section → Outcome String} (heading : Section → String)
    {sections : List Section}
    (h : ∀ s ∈ sections, ∃ result, Gives (first s) result ∧ Gives (second s) result) :
    ∃ parts, write first heading sections = .ok parts ∧
      write second heading sections = .ok parts := by
  induction sections with
  | nil => exact ⟨[], rfl, rfl⟩
  | cons s rest ih =>
      obtain ⟨parts, hfirst, hsecond⟩ := ih fun s hs => h s (List.mem_cons_of_mem _ hs)
      obtain ⟨result, hone, hother⟩ := h s List.mem_cons_self
      unfold write
      cases result with
      | none =>
          obtain ⟨name, hmissing⟩ := gives_none_iff.mp hone
          obtain ⟨other, hmissing'⟩ := gives_none_iff.mp hother
          simp only [hmissing, hmissing']
          exact ⟨parts, hfirst, hsecond⟩
      | some body =>
          simp only [gives_some_iff.mp hone, gives_some_iff.mp hother, hfirst, hsecond]
          exact ⟨_, rfl, rfl⟩

/-- One section that is written alike is filled alike, if the first way gives it or misses a
name. -/
theorem exists_gives_of_write_eq {first second : Section → Outcome String} {s : Section}
    {result : Option String} (hfirst : Gives (first s) result)
    (h : (write first title [s]).map ("\n\n".intercalate ·) =
      (write second title [s]).map ("\n\n".intercalate ·)) :
    ∃ result, Gives (first s) result ∧ Gives (second s) result := by
  refine ⟨result, hfirst, ?_⟩
  have hinjective : ∀ {body other : String},
      s!"{title s}\n\n{body}" = s!"{title s}\n\n{other}" → body = other := by
    intro body other heq
    have hchars := congrArg String.toList heq
    simp only [String.toList_append, List.append_cancel_left_eq] at hchars
    exact String.toList_inj.mp hchars
  have hnonempty : ∀ {body : String}, s!"{title s}\n\n{body}" ≠ "" := by
    intro body heq
    simp only [String.append_eq_empty_iff] at heq
    exact absurd heq.1.2 (by decide)
  simp only [write] at h
  cases result with
  | none =>
      obtain ⟨name, hmissing⟩ := gives_none_iff.mp hfirst
      simp only [hmissing] at h
      split at h
      · rename_i body hbody
        have heq : "" = s!"{title s}\n\n{body}" := Except.ok.inj h
        exact absurd heq.symm hnonempty
      · rename_i name' hmissing'
        rw [hmissing']
        exact .missing name'
      · cases h
  | some body =>
      simp only [gives_some_iff.mp hfirst] at h
      split at h
      · rename_i other hother
        have heq : s!"{title s}\n\n{body}" = s!"{title s}\n\n{other}" := Except.ok.inj h
        rw [hother, hinjective heq]
        exact .value other
      · have heq : s!"{title s}\n\n{body}" = "" := Except.ok.inj h
        exact absurd heq hnonempty
      · cases h

section Render

variable {t : Template} {sections : List Section} {own : List (String × String)}
  (hsections : t.sections = .known sections) (hown : t.bindings = .record (texts own))

include hsections hown

theorem renderTwice_eq [Halves] (context : List (String × String)) :
    t.renderTwice (.record (texts context)) =
      (write (fun s => fillInTurn own context s.content) title
        (sections.mergeSort fun a b => a.order ≤ b.order)).map ("\n\n".intercalate ·) := by
  unfold renderTwice
  rw [hsections, hown, contextOf_record]
  simp only [Sections.ordered, bindingsOf, bind, Except.bind]
  unfold fillInTurn
  simp only [bind, Except.bind]
  cases write _ title (sections.mergeSort fun a b => a.order ≤ b.order) <;> rfl

theorem render_eq [Halves] {context : List (String × String)}
    (hdisjoint : ∀ name ∈ Fields.names context, name ∉ Fields.names own) :
    t.render (.record (texts context)) false =
      (write (fun s => fill (texts (own ++ context)) s.content) title
        (sections.mergeSort fun a b => a.order ≤ b.order)).map ("\n\n".intercalate ·) := by
  have hnames : ∀ name ∈ Fields.names (texts context), name ∉ Fields.names (texts own) := by
    rwa [names_texts, names_texts]
  rw [render_eq_write hsections hown (contextOf_record _), joinedBindings_of_disjoint hnames,
    texts_append]
  rfl

end Render

/-- Rendering at once never fails, and gives what rendering in turn gives if all sections are
settled; for one section exactly then.  Sections are settled whose names are all variables with
braces nowhere in what they give. -/
theorem renderers_agree_where_settled [Halves] {lib : Library} {id : Value} {t : Template}
    {sections : List Section} {own context : List (String × String)}
    (hfind : lib.find id = .ok (some t)) (hsections : t.sections = .known sections)
    (hown : t.bindings = .record (texts own))
    (hdisjoint : ∀ name ∈ Fields.names context, name ∉ Fields.names own)
    (hsimple : ∀ s ∈ sections, isSimple s.content = true) :
    (∃ text, lib.render id (.record (texts context)) false = .ok text) ∧
      ((∀ s ∈ sections, Settled own context s.content) →
        lib.render id (.record (texts context)) false = t.renderTwice (.record (texts context))) ∧
      (∀ s, sections = [s] →
        (lib.render id (.record (texts context)) false = t.renderTwice (.record (texts context)) ↔
          Settled own context s.content)) ∧
      ∀ s ∈ sections, ∀ text, expand? own s.content = some text →
        (∀ c ∈ text.toList, c ≠ '\x7b' ∧ c ≠ '\x7d') → Settled own context s.content := by
  have hrender : lib.render id (.record (texts context)) false =
      t.render (.record (texts context)) false := by
    rw [Library.render, hfind]
    rfl
  have honce := render_eq hsections hown hdisjoint
  have hturn := renderTwice_eq hsections hown context
  have hordered : ∀ {P : Section → Prop}, (∀ s ∈ sections, P s) →
      ∀ s ∈ sections.mergeSort fun a b => a.order ≤ b.order, P s := by
    intro P h s hs
    exact h s (List.mem_mergeSort.mp hs)
  rw [hrender, honce, hturn]
  refine ⟨?_, ?_, ?_, ?_⟩
  · obtain ⟨parts, hparts, -⟩ := write_alike title
      (hordered fun s hs => ⟨_, fill_simple (own ++ context) (hsimple s hs),
        fill_simple (own ++ context) (hsimple s hs)⟩)
    exact ⟨_, by rw [hparts]; rfl⟩
  · intro hsettled
    obtain ⟨parts, hfirst, hsecond⟩ := write_alike title
      (hordered fun s hs => (exists_gives_iff_settled (hsimple s hs)).mpr (hsettled s hs))
    rw [hfirst, hsecond]
  · rintro s rfl
    have hone := hsimple s List.mem_cons_self
    rw [← exists_gives_iff_settled hone, List.mergeSort_singleton]
    constructor
    · exact exists_gives_of_write_eq (fill_simple (own ++ context) hone)
    · intro hgives
      have hall : ∀ s' ∈ [s], ∃ result,
          Gives (fill (texts (own ++ context)) s'.content) result ∧
            Gives (fillInTurn own context s'.content) result :=
        List.forall_mem_singleton.mpr hgives
      obtain ⟨parts, hfirst, hsecond⟩ := write_alike title hall
      rw [hfirst, hsecond]
  · intro s _ text hexpand hbraces
    exact .inr ⟨text, hexpand, fill_of_no_braces hbraces _⟩

section

open scoped Halves.Plain

/-- A note with a name that its variable binds and one that is bound nowhere. -/
theorem dear_ann_rendered_alike :
    (∀ content ∈ ["Dear \x7bname\x7d", "From \x7bnowhere\x7d"],
      isSimple content = true ∧ Settled [("name", "Ann")] [("place", "Bath")] content) ∧
    Library.render ⟨[(.ident .nil, note [("name", "Ann")]
        ["Dear \x7bname\x7d", "From \x7bnowhere\x7d"])]⟩
        (.ident .nil) (.record (texts [("place", "Bath")])) false =
      (note [("name", "Ann")] ["Dear \x7bname\x7d", "From \x7bnowhere\x7d"]).renderTwice
        (.record (texts [("place", "Bath")])) := by
  have hsettled : ∀ content ∈ ["Dear \x7bname\x7d", "From \x7bnowhere\x7d"],
      isSimple content = true ∧ Settled [("name", "Ann")] [("place", "Bath")] content := by
    rw [List.forall_mem_cons, List.forall_mem_singleton]
    refine ⟨⟨by decide +kernel, .inr ⟨"Dear Ann", by decide +kernel, ?_⟩⟩, by decide +kernel,
      .inl (by decide +kernel)⟩
    exact fill_of_no_braces (by simp) _
  refine ⟨hsettled, ?_⟩
  refine (renderers_agree_where_settled (find_note _) rfl rfl (by decide) ?_).2.1 ?_
  · rw [List.forall_mem_map]
    exact fun content hcontent => (hsettled content hcontent).1
  · rw [List.forall_mem_map]
    exact fun content hcontent => (hsettled content hcontent).2

/-- A name that only the context binds: one way shows it, the other leaves the section out. -/
theorem hello_ann_left_out :
    (Library.render ⟨[(.ident .nil, note [] ["Hello \x7bwho\x7d"])]⟩ (.ident .nil)
        (.record (texts [("who", "Ann")])) false).toOption = some "# T\n\nHello Ann" ∧
      ((note [] ["Hello \x7bwho\x7d"]).renderTwice
        (.record (texts [("who", "Ann")]))).toOption = some "" := by
  decide +kernel

end

end Scriptorium.Template
