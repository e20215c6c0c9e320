import Scriptorium.Drafting.Quality
import Scriptorium.Proofs.Text.Case
set_option autoImplicit false

/-!
# Sections of drafts

A section is there if its heading stands somewhere in the lower form of the draft.  No heading of a
required section holds a sigma, so that each character of the draft may be lowered on its own: text
that is added around a draft takes no section away.  Headings open with marks and a space, which
nothing else is lowered to, and which cannot overlap; and no two required sections open alike.  So
there are at least as many marks as sections.
-/

namespace Scriptorium.Drafting

open Text

/-! ## Text around a draft -/

/-- The heading of a section in lower case. -/
def headingOf (name : String) : List Char := ("## " ++ name).toList

theorem hasSection_append {name : String} (hplain : ∀ final, lowerSigma final ∉ headingOf name)
    (before document after : List Char) (h : hasSection document name = true) :
    hasSection (before ++ document ++ after) name = true := by
  unfold hasSection at h ⊢
  rw [← headingOf, occursIn_lowerChars_iff hplain] at h ⊢
  rw [List.flatMap_append, List.flatMap_append]
  exact h.trans (List.infix_append _ _ _)

theorem missingSections_append {required : List String}
    (hplain : ∀ name ∈ required, ∀ final, lowerSigma final ∉ headingOf name)
    (before document after : List Char) :
    (missingSections (before ++ document ++ after) required).Sublist
      (missingSections document required) := by
  have hagain : missingSections (before ++ document ++ after) required =
      (missingSections document required).filter fun name =>
        !hasSection (before ++ document ++ after) name := by
    rw [missingSections, missingSections, List.filter_filter]
    refine List.filter_congr fun name hname => ?_
    cases hhere : hasSection document name with
    | false => simp
    | true => rw [hasSection_append (hplain name hname) before document after hhere]; rfl
  rw [hagain]
  exact List.filter_sublist

/-! ## Marks of headings -/

/-- The mark of a heading with the space behind it. -/
def headingStart : List Char := headingMark ++ [' ']

/-- The number of places where a part stands. -/
def places (part : List Char) : List Char → Nat
  | [] => 0
  | c :: rest => (if part.isPrefixOf (c :: rest) then 1 else 0) + places part rest

theorem count_mark (rest : List Char) :
    count headingMark ('#' :: '#' :: rest) = count headingMark rest + 1 := by
  simp [count, countFrom, headingMark]

theorem count_of_not_mark {c d : Char} (h : ¬(c = '#' ∧ d = '#')) (rest : List Char) :
    count headingMark (c :: d :: rest) = count headingMark (d :: rest) := by
  have hnone : headingMark.isPrefixOf (c :: d :: rest) = false := by
    simpa [headingMark, List.isPrefixOf, eq_comm (a := '#')] using h
  rw [count, countFrom, hnone]
  rfl

/-- A mark that a space follows leaves no room for another one that begins in it. -/
theorem places_mark_le (rest : List Char) :
    places headingStart ('#' :: '#' :: rest) ≤ places headingStart rest + 1 := by
  simp only [places]
  cases rest with
  | nil => simp [headingStart, headingMark]
  | cons c rest =>
      by_cases hspace : c = ' '
      · simp [headingStart, headingMark, hspace, Nat.add_comm]
      · have hfirst : headingStart.isPrefixOf ('#' :: '#' :: c :: rest) = false := by
          simp [headingStart, headingMark, List.isPrefixOf, Ne.symm hspace]
        simp only [hfirst, Bool.false_eq_true, if_false, Nat.zero_add]
        split <;> omega

theorem places_of_not_mark {c d : Char} (h : ¬(c = '#' ∧ d = '#')) (rest : List Char) :
    places headingStart (c :: d :: rest) = places headingStart (d :: rest) := by
  have hnone : headingStart.isPrefixOf (c :: d :: rest) = false := by
    simp only [headingStart, headingMark, List.cons_append, List.isPrefixOf]
    grind
  rw [places, hnone]
  simp

/-- There are at least as many marks, counted without overlap, as marks that a space follows. -/
theorem places_le_count : ∀ cs, places headingStart cs ≤ count headingMark cs
  | [] => Nat.le_refl 0
  | [c] => by simp [places, headingStart, headingMark]
  | c :: d :: rest => by
      by_cases hmark : c = '#' ∧ d = '#'
      · obtain ⟨rfl, rfl⟩ := hmark
        rw [count_mark]
        exact Nat.le_trans (places_mark_le rest) (Nat.add_le_add_right (places_le_count rest) 1)
      · rw [places_of_not_mark hmark, count_of_not_mark hmark]
        exact places_le_count (d :: rest)

/-! ## Marks and lower case -/

theorem toNat_ofNat_of_ne_zero {n : Nat} (h : (Char.ofNat n).toNat ≠ 0) :
    (Char.ofNat n).toNat = n := by
  by_cases hvalid : n.isValidChar
  · rw [Char.ofNat, dif_pos hvalid]
    rfl
  · rw [Char.ofNat, dif_neg hvalid] at h
    exact absurd rfl h

/-- Whatever has another lower form has one among the letters or behind them. -/
theorem le_apply_lowerRuns (code : Nat) :
    CaseRun.apply lowerRuns code = code ∨ 65 ≤ CaseRun.apply lowerRuns code := by
  have hruns : ∀ run ∈ lowerRuns, 65 ≤ (run.first : Int) + run.shift := by decide +kernel
  unfold CaseRun.apply
  split
  · rename_i run hfind
    have hrun := hruns run (List.mem_of_find?_eq_some hfind)
    have hholds := List.find?_some hfind
    simp only [CaseRun.holds, Bool.and_eq_true, decide_eq_true_eq] at hholds
    right
    omega
  · exact .inl rfl

/-- Nothing is lowered to a character before the letters but that character itself. -/
theorem eq_of_mem_lowerChar {m c : Char} (hsome : m.toNat ≠ 0) (hlow : m.toNat < 65)
    (h : m ∈ lowerChar c) : c = m := by
  unfold lowerChar at h
  split at h
  · simp only [List.mem_cons, List.not_mem_nil, or_false] at h
    rcases h with rfl | rfl <;> exact absurd hlow (by decide)
  · rw [List.mem_singleton] at h
    rw [h] at hsome hlow
    rw [toNat_ofNat_of_ne_zero hsome] at hlow
    rcases le_apply_lowerRuns c.toNat with hsame | hletter
    · rw [h, hsame, Char.ofNat_toNat]
    · omega

theorem lowerChar_ne_nil (c : Char) : lowerChar c ≠ [] := by
  unfold lowerChar
  split <;> exact List.cons_ne_nil _ _

/-- A character that stays, and that nothing else is lowered to. -/
structure Steady (m : Char) : Prop where
  lowerChar_eq : lowerChar m = [m]
  eq_of_mem : ∀ c, m ∈ lowerChar c → c = m

theorem steady_headingStart : ∀ m ∈ headingStart, Steady m := by
  intro m hm
  have hm : m = '#' ∨ m = ' ' := by simpa [headingStart, headingMark] using hm
  rcases hm with rfl | rfl
  · exact ⟨by decide, fun c => eq_of_mem_lowerChar (by decide) (by decide)⟩
  · exact ⟨by decide, fun c => eq_of_mem_lowerChar (by decide) (by decide)⟩

/-- A part of such characters opens a text just if it opens the lowered one. -/
theorem isPrefix_flatMap_lowerChar_iff {part : List Char} (h : ∀ m ∈ part, Steady m)
    (cs : List Char) : part <+: cs.flatMap lowerChar ↔ part <+: cs := by
  induction part generalizing cs with
  | nil => simp
  | cons m part ih =>
      rw [List.forall_mem_cons] at h
      obtain ⟨hm, hpart⟩ := h
      cases cs with
      | nil => simp
      | cons c rest =>
          obtain ⟨d, ds, hlower⟩ := List.exists_cons_of_ne_nil (lowerChar_ne_nil c)
          rw [List.flatMap_cons, List.cons_prefix_cons]
          constructor
          · intro hopens
            have hfirst : m = d := by
              rw [hlower, List.cons_append, List.cons_prefix_cons] at hopens
              exact hopens.1
            obtain rfl : c = m := hm.eq_of_mem c (by rw [hlower, hfirst]; exact List.mem_cons_self)
            rw [hm.lowerChar_eq, List.singleton_append, List.cons_prefix_cons, ih hpart] at hopens
            exact hopens
          · rintro ⟨rfl, hopens⟩
            rw [hm.lowerChar_eq, List.singleton_append, List.cons_prefix_cons, ih hpart]
            exact ⟨rfl, hopens⟩

/-- A part stands nowhere in a text without its first character. -/
theorem places_append_of_not_mem {m : Char} {part l : List Char} (h : m ∉ l) (cs : List Char) :
    places (m :: part) (l ++ cs) = places (m :: part) cs := by
  induction l with
  | nil => rfl
  | cons c l ih =>
      rw [List.mem_cons, not_or] at h
      have hnone : (m :: part).isPrefixOf (c :: (l ++ cs)) = false := by
        simp [List.isPrefixOf, h.1]
      rw [List.cons_append, places, hnone, ih h.2]
      simp

theorem places_flatMap_lowerChar {m : Char} {part : List Char} (h : ∀ d ∈ m :: part, Steady d)
    (cs : List Char) : places (m :: part) (cs.flatMap lowerChar) = places (m :: part) cs := by
  have hm : Steady m := h m List.mem_cons_self
  induction cs with
  | nil => rfl
  | cons c rest ih =>
      by_cases hc : c = m
      · have hopens : (m :: part).isPrefixOf (m :: rest.flatMap lowerChar) =
            (m :: part).isPrefixOf (m :: rest) := by
          rw [Bool.eq_iff_iff, List.isPrefixOf_iff_prefix, List.isPrefixOf_iff_prefix,
            ← isPrefix_flatMap_lowerChar_iff h (m :: rest), List.flatMap_cons, hm.lowerChar_eq,
            List.singleton_append]
        rw [hc, List.flatMap_cons, hm.lowerChar_eq, List.singleton_append, places, places, hopens,
          ih]
      · have habsent : m ∉ lowerChar c := fun hmem => hc (hm.eq_of_mem c hmem)
        have hnone : (m :: part).isPrefixOf (c :: rest) = false := by
          simp [List.isPrefixOf, Ne.symm hc]
        rw [List.flatMap_cons, places_append_of_not_mem habsent, ih, places, hnone]
        simp

/-! ## Sections and their marks -/

/-- Of two texts neither opens the other. -/
def Apart (a b : List Char) : Prop := ¬a <+: b ∧ ¬b <+: a

/-- Of texts that do not open each other at most one opens a text. -/
theorem countP_isPrefixOf_le_one {names : List (List Char)} (h : names.Pairwise Apart)
    (cs : List Char) : names.countP (·.isPrefixOf cs) ≤ 1 := by
  induction names with
  | nil => simp
  | cons name names ih =>
      rw [List.pairwise_cons] at h
      rw [List.countP_cons]
      split
      · rename_i hopens
        rw [List.isPrefixOf_iff_prefix] at hopens
        have hnone : names.countP (·.isPrefixOf cs) = 0 := by
          rw [List.countP_eq_zero]
          intro other hother hthere
          rw [List.isPrefixOf_iff_prefix] at hthere
          rcases List.prefix_or_prefix_of_prefix hopens hthere with hpre | hpre
          · exact (h.1 other hother).1 hpre
          · exact (h.1 other hother).2 hpre
        omega
      · exact ih h.2

theorem countP_or_le {α : Type} (p q : α → Bool) (xs : List α) :
    xs.countP (fun x => p x || q x) ≤ xs.countP p + xs.countP q := by
  induction xs with
  | nil => simp
  | cons x xs ih =>
      simp only [List.countP_cons]
      cases p x <;> cases q x <;> simp <;> omega

/-- Each part that stands in a text has a place of its own. -/
theorem countP_occursIn_le_places {start : List Char} (hstart : start ≠ [])
    {parts : List (List Char)} (hopens : ∀ part ∈ parts, start <+: part)
    (hapart : parts.Pairwise Apart) (cs : List Char) :
    parts.countP (occursIn · cs) ≤ places start cs := by
  induction cs with
  | nil =>
      refine Nat.le_of_eq (List.countP_eq_zero.mpr fun part hpart => ?_)
      have hne : part ≠ [] := fun hnil => hstart (List.prefix_nil.mp (hnil ▸ hopens part hpart))
      simpa [occursIn] using hne
  | cons c rest ih =>
      have hsplit := countP_or_le (·.isPrefixOf (c :: rest)) (occursIn · rest) parts
      have hhere : parts.countP (·.isPrefixOf (c :: rest)) ≤
          if start.isPrefixOf (c :: rest) then 1 else 0 := by
        split
        · exact countP_isPrefixOf_le_one hapart (c :: rest)
        · rename_i hnone
          refine Nat.le_of_eq (List.countP_eq_zero.mpr fun part hpart hthere => hnone ?_)
          rw [List.isPrefixOf_iff_prefix] at hthere ⊢
          exact (hopens part hpart).trans hthere
      simp only [occursIn, places]
      omega

/-! ## Required sections -/

instance (a b : List Char) : Decidable (Apart a b) := inferInstanceAs (Decidable (_ ∧ _))

theorem plain_required (s : Specification) :
    ∀ name ∈ s.required, ∀ final, lowerSigma final ∉ headingOf name := by
  cases s <;> decide +kernel

theorem apart_required (s : Specification) : (s.required.map headingOf).Pairwise Apart := by
  cases s <;> decide +kernel

theorem headingStart_isPrefix (name : String) : headingStart <+: headingOf name :=
  ⟨name.toList, by rw [headingOf, String.toList_append]; rfl⟩

theorem exists_specification {kind : String}
    (h : Text.lower kind = "srs" ∨ Text.lower kind = "sds") :
    ∃ s, Specification.ofName? kind = some s := by
  rcases h with h | h <;> simp [Specification.ofName?, h]

/-- The share of required sections, as it is computed. -/
def percent (required missing : Nat) : Float :=
  Decimal.ofInt (required - missing) / Decimal.ofInt required * 100

/-- What is reported about a draft: how many words and marks of headings it has, which sections are
required, which of them are missing, and the share of those that are there. -/
def report (words marks : Nat) (required missing : List String) (now : Stamp) : Value :=
  .record [("word_count", .int words), ("section_count", .int marks),
    ("required_sections", .list (required.map .text)),
    ("missing_sections", .list (missing.map .text)),
    ("coverage_score", .float (percent required.length missing.length)),
    ("timestamp", .text now.text)]

theorem requiredSections_of_kind {kind : String} {s : Specification}
    (h : Specification.ofName? kind = some s) : requiredSections (.text kind) = .ok s.required := by
  simp [requiredSections, Specification.ofValue, h, bind, Except.bind, pure, Except.pure]

/-- A text of a known kind is always measured. -/
theorem quality_of_kind [Halves] {kind : String} {s : Specification}
    (h : Specification.ofName? kind = some s) (document : String) (now : Stamp) :
    quality (.text document) (.text kind) now =
      report (Text.words document).length (count headingMark document.toList) s.required
        (missingSections document.toList s.required) now := by
  have hsome : s.required.isEmpty = false := by cases s <;> rfl
  have hanalyse : analyse (.text document) (.text kind) now =
      .ok (measure document s.required now) := by
    simp [analyse, Value.textFor, requiredSections_of_kind h, hsome, bind, Except.bind, pure,
      Except.pure]
  rw [quality, hanalyse]
  rfl

theorem percent_mono (s : Specification) {fewer more : Nat} (h : fewer ≤ more)
    (hmore : more ≤ s.required.length) :
    percent s.required.length more ≤ percent s.required.length fewer := by
  have hall : ∀ more ≤ s.required.length, ∀ fewer ≤ more,
      percent s.required.length more ≤ percent s.required.length fewer := by
    cases s <;> decide +kernel
  exact hall more hmore fewer h

/-- Whatever is written before and behind a document of a known kind, it is measured as before, no
further section is missing, in the same order, and the share of sections does not drop. -/
theorem added_text_takes_no_section_away [Halves] {kind : String}
    (hkind : Text.lower kind = "srs" ∨ Text.lower kind = "sds") (before document after : String)
    (now later : Stamp) :
    ∃ (words marks words' marks' : Nat) (required missing missing' : List String),
      quality (.text document) (.text kind) now = report words marks required missing now ∧
      quality (.text (before ++ document ++ after)) (.text kind) later =
        report words' marks' required missing' later ∧
      missing'.Sublist missing ∧
      percent required.length missing.length ≤ percent required.length missing'.length := by
  obtain ⟨s, hs⟩ := exists_specification hkind
  refine ⟨_, _, _, _, s.required, _, _, quality_of_kind hs document now,
    quality_of_kind hs _ later, ?_⟩
  have hsublist : (missingSections (before ++ document ++ after).toList s.required).Sublist
      (missingSections document.toList s.required) := by
    rw [String.toList_append, String.toList_append]
    exact missingSections_append (plain_required s) _ _ _
  exact ⟨hsublist, percent_mono s hsublist.length_le (List.length_filter_le _ _)⟩

section

open scoped Halves.Plain

/-- Lower case hangs together across the ends of this draft: behind the text that is added its last
sigma no longer ends a word. -/
theorem text_added_around_greek_draft :
    Text.lower "SrS" = "srs" ∧
    ∃ (words marks words' marks' : Nat) (required missing missing' : List String),
      quality (.text "## INTRODUCTION ΑΣ") (.text "SrS") ⟨0, none⟩ =
        report words marks required missing ⟨0, none⟩ ∧
      quality (.text ("Α" ++ "## INTRODUCTION ΑΣ" ++ "Α\n## System Features")) (.text "SrS")
        ⟨1, none⟩ = report words' marks' required missing' ⟨1, none⟩ ∧
      missing'.Sublist missing ∧
      percent required.length missing.length ≤ percent required.length missing'.length := by
  have hkind : Text.lower "SrS" = "srs" := by decide
  exact ⟨hkind, added_text_takes_no_section_away (.inl hkind) "Α" "## INTRODUCTION ΑΣ"
    "Α\n## System Features" ⟨0, none⟩ ⟨1, none⟩⟩

end

theorem countP_hasSection_le (s : Specification) (document : List Char) :
    s.required.countP (hasSection document) ≤ count headingMark document := by
  have hplain : ∀ name ∈ s.required, hasSection document name = true ↔
      (headingOf name) <:+: document.flatMap lowerChar := fun name hname =>
    occursIn_lowerChars_iff (plain_required s name hname) document
  calc
    s.required.countP (hasSection document) =
        (s.required.map headingOf).countP (occursIn · (document.flatMap lowerChar)) := by
      rw [List.countP_map]
      refine List.countP_congr fun name hname => ?_
      rw [hplain name hname, Function.comp_apply, occursIn_iff_isInfix]
    _ ≤ places headingStart (document.flatMap lowerChar) := by
      refine countP_occursIn_le_places (by decide) ?_ (apart_required s) _
      intro part hpart
      obtain ⟨name, -, rfl⟩ := List.mem_map.mp hpart
      exact headingStart_isPrefix name
    _ = places headingStart document := places_flatMap_lowerChar steady_headingStart document
    _ ≤ count headingMark document := places_le_count document

/-- The report on a document of a known kind counts at least as many marks of headings as required
sections that are there.  Those that are missing are the ones whose headings do not stand in the
document in lower case. -/
theorem sections_counted_at_least_as_found [Halves] {kind : String}
    (hkind : Text.lower kind = "srs" ∨ Text.lower kind = "sds") (document : String) (now : Stamp) :
    ∃ (words marks : Nat) (required missing : List String),
      quality (.text document) (.text kind) now = report words marks required missing now ∧
      requiredSections (.text kind) = .ok required ∧
      missing = required.filter (fun name =>
        !occursIn ("## " ++ name).toList (lowerChars document.toList)) ∧
      (required.length : Int) - missing.length ≤ marks := by
  obtain ⟨s, hs⟩ := exists_specification hkind
  refine ⟨_, _, s.required, _, quality_of_kind hs document now, requiredSections_of_kind hs, rfl,
    ?_⟩
  have hfound := countP_hasSection_le s document.toList
  have hsplit := List.length_eq_countP_add_countP (hasSection document.toList) (l := s.required)
  have hmissing : (missingSections document.toList s.required).length =
      s.required.countP fun name => ¬hasSection document.toList name := by
    rw [missingSections, ← List.countP_eq_length_filter]
    exact List.countP_congr fun name _ => by simp
  omega

section

open scoped Halves.Plain

/-- Marks that run together, and letters whose lower forms are longer. -/
theorem marks_of_long_heading_counted :
    Text.lower "Sds" = "sds" ∧
    ∃ (words marks : Nat) (required missing : List String),
      quality (.text "##### Introduction\n## İ ##\n#### SYSTEM OVERVIEW") (.text "Sds") ⟨0, none⟩ =
        report words marks required missing ⟨0, none⟩ ∧
      requiredSections (.text "Sds") = .ok required ∧
      missing = required.filter (fun name => !occursIn ("## " ++ name).toList
        (lowerChars "##### Introduction\n## İ ##\n#### SYSTEM OVERVIEW".toList)) ∧
      (required.length : Int) - missing.length ≤ marks := by
  have hkind : Text.lower "Sds" = "sds" := by decide
  exact ⟨hkind, sections_counted_at_least_as_found (.inr hkind)
    "##### Introduction\n## İ ##\n#### SYSTEM OVERVIEW" ⟨0, none⟩⟩

end

end Scriptorium.Drafting
