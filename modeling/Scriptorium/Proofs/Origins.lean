import Mathlib.Data.List.DropRight
import Scriptorium.Origins
set_option autoImplicit false

/-!
# Lists of origins

A comma parts the origins before it from those behind it, whatever stands on its two sides, and
commas and blanks at the ends of a text add nothing.  So the origins of a text can be read off its
layout: they stand in it one behind the other, with nothing but commas and blanks around them and a
comma between each two.
-/

namespace Scriptorium

namespace Text

/-! ## Blanks at the ends -/

theorem trimChars_cons {c : Char} (hc : isBlank c = true) (cs : List Char) :
    trimChars (c :: cs) = trimChars cs := by
  rw [trimChars, trimChars, List.dropWhile_cons_of_pos hc]

theorem trimChars_concat {c : Char} (hc : isBlank c = true) (cs : List Char) :
    trimChars (cs ++ [c]) = trimChars cs := by
  rw [trimChars, trimChars, List.dropWhile_append]
  split
  · next hempty =>
      rw [List.isEmpty_iff.mp hempty, List.dropWhile_cons_of_pos hc]
      rfl
  · rw [List.reverse_append, List.reverse_singleton, List.singleton_append,
      List.dropWhile_cons_of_pos hc]

theorem trimChars_append_rtakeWhile (cs : List Char) :
    trimChars cs ++ (cs.dropWhile isBlank).rtakeWhile isBlank = cs.dropWhile isBlank :=
  List.rdropWhile_append_rtakeWhile

/-- A text is what is left of it with blanks before and behind. -/
theorem exists_blanks_trimChars (cs : List Char) : ∃ before after : List Char,
    (∀ c ∈ before, isBlank c = true) ∧ (∀ c ∈ after, isBlank c = true) ∧
      cs = before ++ trimChars cs ++ after := by
  refine ⟨cs.takeWhile isBlank, (cs.dropWhile isBlank).rtakeWhile isBlank,
    fun c hc => List.mem_takeWhile_imp hc, fun c hc => List.mem_rtakeWhile_imp hc, ?_⟩
  rw [List.append_assoc, trimChars_append_rtakeWhile, List.takeWhile_append_dropWhile]

theorem head_trimChars {cs : List Char} {c : Char} (h : c ∈ (trimChars cs).head?) :
    isBlank c = false := by
  have hhead : (cs.dropWhile isBlank).head? = some c := by
    rw [← trimChars_append_rtakeWhile, List.head?_append, Option.mem_def.mp h, Option.some_or]
  have hnot := List.head?_dropWhile_not isBlank cs
  rwa [hhead] at hnot

theorem getLast_trimChars {cs : List Char} {c : Char} (h : c ∈ (trimChars cs).getLast?) :
    isBlank c = false := by
  have hnot := List.head?_dropWhile_not isBlank (cs.dropWhile isBlank).reverse
  rw [trimChars, List.getLast?_reverse] at h
  rwa [Option.mem_def.mp h] at hnot

/-- Where no blank stands at an end, nothing is dropped. -/
theorem trimChars_eq_self {cs : List Char} (hopens : ∀ c ∈ cs.head?, isBlank c = false)
    (hcloses : ∀ c ∈ cs.getLast?, isBlank c = false) : trimChars cs = cs := by
  have hdrop : ∀ l : List Char, (∀ c ∈ l.head?, isBlank c = false) → l.dropWhile isBlank = l := by
    intro l hl
    cases l with
    | nil => rfl
    | cons c l => exact List.dropWhile_cons_of_neg (by simp [hl c rfl])
  rw [trimChars, hdrop cs hopens, hdrop cs.reverse (by rwa [List.head?_reverse]),
    List.reverse_reverse]

end Text

namespace Origins

/-! ## How a text lists origins -/

/-- A text of blanks. -/
def IsBlank (s : String) : Prop := ∀ c ∈ s.toList, Text.isBlank c = true

instance (s : String) : Decidable (IsBlank s) := List.decidableBAll _ s.toList

/-- A text of commas and blanks. -/
def IsGap (s : String) : Prop := ∀ c ∈ s.toList, c = ',' ∨ Text.isBlank c = true

/-- An origin is not empty, has no comma in it, and neither begins nor ends with a blank. -/
structure IsOrigin (origin : String) : Prop where
  ne_empty : origin ≠ ""
  no_comma : ',' ∉ origin.toList
  opens : ∀ c ∈ origin.toList.head?, Text.isBlank c = false
  closes : ∀ c ∈ origin.toList.getLast?, Text.isBlank c = false

/-- Texts strung into one: they stand in it one behind the other, each two of them with a text of
some kind between them. -/
inductive Strung (between : String → Prop) : List String → String → Prop
  | nil : Strung between [] ""
  | single (o : String) : Strung between [o] o
  | cons {o p gap text : String} {os : List String} (hgap : between gap)
      (htext : Strung between (p :: os) text) : Strung between (o :: p :: os) (o ++ gap ++ text)

/-- Texts joined by commas, with any blanks around each comma. -/
def Joined (os : List String) (text : String) : Prop :=
  Strung (fun gap => ∃ before after, IsBlank before ∧ IsBlank after ∧ gap = before ++ "," ++ after)
    os text

/-- A gap that parts what stands on its two sides. -/
def Parts (gap : String) : Prop := IsGap gap ∧ ',' ∈ gap.toList

/-- A text lists origins: they stand in it in this order, with nothing but commas and blanks around
them and a comma between each two. -/
def Lists (text : String) (os : List String) : Prop :=
  ∃ before body after, IsGap before ∧ IsGap after ∧ Strung Parts os body ∧
    text = before ++ body ++ after

/-! ## Gaps -/

theorem isGap_of_isBlank {s : String} (h : IsBlank s) : IsGap s := fun c hc => .inr (h c hc)

theorem IsGap.append {s t : String} (hs : IsGap s) (ht : IsGap t) : IsGap (s ++ t) := by
  rw [IsGap, String.toList_append, List.forall_mem_append]
  exact ⟨hs, ht⟩

theorem isGap_empty : IsGap "" := fun _ hc => absurd hc List.not_mem_nil

theorem isGap_comma : IsGap "," := fun _ hc => .inl (List.mem_singleton.mp hc)

theorem parts_comma {before after : String} (hbefore : IsGap before) (hafter : IsGap after) :
    Parts (before ++ "," ++ after) := by
  refine ⟨(hbefore.append isGap_comma).append hafter, ?_⟩
  simp

theorem Parts.exists_comma {gap : String} (h : Parts gap) :
    ∃ before after, IsGap before ∧ IsGap after ∧ gap = before ++ "," ++ after := by
  obtain ⟨before, after, hgap⟩ := List.append_of_mem h.2
  have hchars := h.1
  rw [IsGap, hgap, List.forall_mem_append, List.forall_mem_cons] at hchars
  refine ⟨String.ofList before, String.ofList after, ?_, ?_, ?_⟩
  · simpa [IsGap] using hchars.1
  · simpa [IsGap] using hchars.2.2
  · rw [← String.toList_inj, hgap]
    simp

/-! ## What is read -/

/-- A comma parts the origins on its two sides. -/
theorem origins_append_comma (a b : String) : origins (a ++ "," ++ b) = origins a ++ origins b := by
  have hchars : (a ++ "," ++ b).toList = a.toList ++ ',' :: b.toList := by simp
  rw [origins, hchars, Text.splitAtChar_append_mark, List.map_append, List.filterMap_append]
  rfl

/-- Between commas stands one origin, or blanks only. -/
theorem origins_of_no_comma {a : String} (h : ',' ∉ a.toList) :
    origins a = if Text.trim a = "" then [] else [Text.trim a] := by
  rw [origins, Text.splitAtChar_of_not_mem h, List.map_singleton, Text.trim]
  cases Text.trimChars a.toList with
  | nil => simp
  | cons c cs => simp

/-- What holds of texts without commas, and of two texts with a comma between them if it holds of
each, holds of all texts. -/
theorem induction_on_commas {motive : String → Prop} (plain : ∀ a, ',' ∉ a.toList → motive a)
    (comma : ∀ a b, motive a → motive b → motive (a ++ "," ++ b)) (s : String) : motive s := by
  -- `first` is what has been passed since the last comma
  have hall : ∀ cs first : List Char, ',' ∉ first → motive (String.ofList (first ++ cs)) := by
    intro cs
    induction cs with
    | nil => exact fun first hfirst => plain _ (by simpa using hfirst)
    | cons c rest ih =>
        intro first hfirst
        by_cases hc : c = ','
        · have hparted : String.ofList (first ++ c :: rest) =
              String.ofList first ++ "," ++ String.ofList rest := by
            rw [← String.toList_inj, hc]
            simp
          rw [hparted]
          exact comma _ _ (plain _ (by simpa using hfirst)) (ih [] List.not_mem_nil)
        · have hmore := ih (first ++ [c]) (by simp [hfirst, Ne.symm hc])
          rwa [List.append_assoc, List.singleton_append] at hmore
  have hs := hall s.toList [] List.not_mem_nil
  rwa [List.nil_append, String.ofList_toList] at hs

theorem origins_empty : origins "" = [] := rfl

theorem ne_comma_of_isBlank {c : Char} (hc : Text.isBlank c = true) : c ≠ ',' := by
  rintro rfl
  cases hc

theorem origins_singleton_append {c : Char} (hc : c = ',' ∨ Text.isBlank c = true) (a : String) :
    origins (String.singleton c ++ a) = origins a := by
  rcases hc with rfl | hc
  · have hcomma := origins_append_comma "" a
    rwa [String.empty_append, origins_empty, List.nil_append] at hcomma
  · induction a using induction_on_commas with
    | plain a ha =>
        have hnot : ',' ∉ (String.singleton c ++ a).toList := by
          simp [ha, (ne_comma_of_isBlank hc).symm]
        have htrim : Text.trim (String.singleton c ++ a) = Text.trim a := by
          simp [Text.trim, Text.trimChars_cons hc]
        rw [origins_of_no_comma hnot, origins_of_no_comma ha, htrim]
    | comma a b ha _ =>
        rw [← String.append_assoc, ← String.append_assoc, origins_append_comma, ha,
          origins_append_comma]

theorem origins_append_singleton {c : Char} (hc : c = ',' ∨ Text.isBlank c = true) (a : String) :
    origins (a ++ String.singleton c) = origins a := by
  rcases hc with rfl | hc
  · have hcomma := origins_append_comma a ""
    rwa [String.append_empty, origins_empty, List.append_nil] at hcomma
  · induction a using induction_on_commas with
    | plain a ha =>
        have hnot : ',' ∉ (a ++ String.singleton c).toList := by
          simp [ha, (ne_comma_of_isBlank hc).symm]
        have htrim : Text.trim (a ++ String.singleton c) = Text.trim a := by
          simp [Text.trim, Text.trimChars_concat hc]
        rw [origins_of_no_comma hnot, origins_of_no_comma ha, htrim]
    | comma a b _ hb =>
        rw [String.append_assoc, origins_append_comma, hb, origins_append_comma]

/-- A gap before a text adds no origin. -/
theorem origins_gap_append {gap : String} (h : IsGap gap) (a : String) :
    origins (gap ++ a) = origins a := by
  obtain ⟨cs, rfl⟩ : ∃ cs, gap = String.ofList cs := ⟨gap.toList, String.ofList_toList.symm⟩
  rw [IsGap, String.toList_ofList] at h
  induction cs with
  | nil => simp
  | cons c cs ih =>
      rw [List.forall_mem_cons] at h
      rw [String.ofList_cons, String.append_assoc, origins_singleton_append h.1, ih h.2]

/-- A gap behind a text adds no origin. -/
theorem origins_append_gap {gap : String} (h : IsGap gap) (a : String) :
    origins (a ++ gap) = origins a := by
  obtain ⟨cs, rfl⟩ : ∃ cs, gap = String.ofList cs := ⟨gap.toList, String.ofList_toList.symm⟩
  rw [IsGap, String.toList_ofList] at h
  induction cs generalizing a with
  | nil => simp
  | cons c cs ih =>
      rw [List.forall_mem_cons] at h
      rw [String.ofList_cons, ← String.append_assoc, ih _ h.2, origins_append_singleton h.1]

/-- A gap with a comma parts the origins on its two sides. -/
theorem origins_append_parts {gap : String} (h : Parts gap) (a b : String) :
    origins (a ++ gap ++ b) = origins a ++ origins b := by
  obtain ⟨before, after, hbefore, hafter, rfl⟩ := h.exists_comma
  have hregroup : a ++ (before ++ "," ++ after) ++ b = (a ++ before) ++ "," ++ (after ++ b) := by
    simp only [String.append_assoc]
  rw [hregroup, origins_append_comma, origins_append_gap hbefore, origins_gap_append hafter]

/-- An origin by itself is read as it stands. -/
theorem origins_of_isOrigin {o : String} (h : IsOrigin o) : origins o = [o] := by
  have htrim : Text.trim o = o := by
    rw [Text.trim, Text.trimChars_eq_self h.opens h.closes, String.ofList_toList]
  rw [origins_of_no_comma h.no_comma, htrim, if_neg h.ne_empty]

/-! ## The layout of a text -/

theorem isOrigin_trim {a : String} (hcomma : ',' ∉ a.toList) (hne : Text.trim a ≠ "") :
    IsOrigin (Text.trim a) where
  ne_empty := hne
  no_comma hmem := by
    obtain ⟨before, after, -, -, ha⟩ := Text.exists_blanks_trimChars a.toList
    rw [Text.trim, String.toList_ofList] at hmem
    rw [ha] at hcomma
    exact hcomma (List.mem_append_left _ (List.mem_append_right _ hmem))
  opens c hc := by
    rw [Text.trim, String.toList_ofList] at hc
    exact Text.head_trimChars hc
  closes c hc := by
    rw [Text.trim, String.toList_ofList] at hc
    exact Text.getLast_trimChars hc

theorem isOrigin_of_mem_origins {s o : String} (h : o ∈ origins s) : IsOrigin o := by
  induction s using induction_on_commas with
  | plain a ha =>
      rw [origins_of_no_comma ha] at h
      split at h
      · exact absurd h List.not_mem_nil
      · next hne =>
          rw [List.mem_singleton.mp h]
          exact isOrigin_trim ha hne
  | comma a b iha ihb =>
      rw [origins_append_comma, List.mem_append] at h
      exact h.elim iha ihb

theorem exists_gaps_trim (a : String) : ∃ before after,
    IsGap before ∧ IsGap after ∧ a = before ++ Text.trim a ++ after := by
  obtain ⟨before, after, hbefore, hafter, ha⟩ := Text.exists_blanks_trimChars a.toList
  refine ⟨String.ofList before, String.ofList after, ?_, ?_, ?_⟩
  · exact isGap_of_isBlank (by simpa [IsBlank] using hbefore)
  · exact isGap_of_isBlank (by simpa [IsBlank] using hafter)
  · rw [← String.toList_inj, String.toList_append, String.toList_append]
    simpa [Text.trim] using ha

theorem lists_of_no_comma {a : String} (h : ',' ∉ a.toList) : Lists a (origins a) := by
  obtain ⟨before, after, hbefore, hafter, ha⟩ := exists_gaps_trim a
  refine ⟨before, Text.trim a, after, hbefore, hafter, ?_, ha⟩
  rw [origins_of_no_comma h]
  split
  · next hempty =>
      rw [hempty]
      exact .nil
  · exact .single _

theorem Strung.append {between : String → Prop} {o p a gap b : String} {os ps : List String}
    (ha : Strung between (o :: os) a) (hgap : between gap) (hb : Strung between (p :: ps) b) :
    Strung between (o :: os ++ p :: ps) (a ++ gap ++ b) := by
  induction os generalizing o a with
  | nil =>
      cases ha
      exact .cons hgap hb
  | cons o' os ih =>
      cases ha with
      | @cons _ _ gap' text _ hgap' htext =>
          have hregroup : o ++ gap' ++ text ++ gap ++ b = o ++ gap' ++ (text ++ gap ++ b) := by
            simp only [String.append_assoc]
          rw [hregroup]
          exact .cons hgap' (ih htext)

theorem Lists.append_comma {a b : String} {os ps : List String} (ha : Lists a os)
    (hb : Lists b ps) : Lists (a ++ "," ++ b) (os ++ ps) := by
  obtain ⟨before, body, after, hbefore, hafter, hbody, rfl⟩ := ha
  obtain ⟨before', body', after', hbefore', hafter', hbody', rfl⟩ := hb
  have hparts : Parts (after ++ "," ++ before') := parts_comma hafter hbefore'
  -- the gaps next to the comma and the comma are one gap, which lies between two origins unless one
  -- of the texts lists none
  rcases os with - | ⟨o, os⟩
  · cases hbody
    refine ⟨before ++ (after ++ "," ++ before'), body', after', hbefore.append hparts.1, hafter',
      hbody', ?_⟩
    simp only [String.append_assoc, String.empty_append]
  · rcases ps with - | ⟨p, ps⟩
    · cases hbody'
      refine ⟨before, body, after ++ "," ++ before' ++ after', hbefore, hparts.1.append hafter',
        ?_, ?_⟩
      · rwa [List.append_nil]
      · simp only [String.append_assoc, String.empty_append]
    · refine ⟨before, _, after', hbefore, hafter', hbody.append hparts hbody', ?_⟩
      simp only [String.append_assoc]

/-- A text lists its origins. -/
theorem lists_origins (s : String) : Lists s (origins s) := by
  induction s using induction_on_commas with
  | plain a ha => exact lists_of_no_comma ha
  | comma a b iha ihb =>
      rw [origins_append_comma]
      exact iha.append_comma ihb

theorem origins_of_strung {os : List String} {body : String} (hos : ∀ o ∈ os, IsOrigin o)
    (h : Strung Parts os body) : origins body = os := by
  induction h with
  | nil => exact origins_empty
  | single o => exact origins_of_isOrigin (hos o List.mem_cons_self)
  | cons hgap _ ih =>
      rw [List.forall_mem_cons] at hos
      rw [origins_append_parts hgap, origins_of_isOrigin hos.1, ih hos.2, List.singleton_append]

/-- The origins of a text are what it lists: nothing else can be read from its layout. -/
theorem origins_eq_iff {s : String} {os : List String} :
    origins s = os ↔ (∀ o ∈ os, IsOrigin o) ∧ Lists s os := by
  constructor
  · rintro rfl
    exact ⟨fun o => isOrigin_of_mem_origins, lists_origins s⟩
  · rintro ⟨hos, before, body, after, hbefore, hafter, hbody, rfl⟩
    rw [origins_append_gap hafter, origins_gap_append hbefore, origins_of_strung hos hbody]

/-! ## Joining and reading again -/

theorem Strung.mono {between between' : String → Prop} (hkind : ∀ gap, between gap → between' gap)
    {os : List String} {text : String} (h : Strung between os text) : Strung between' os text := by
  induction h with
  | nil => exact .nil
  | single o => exact .single o
  | cons hgap _ ih => exact .cons (hkind _ hgap) ih

theorem Joined.lists {os : List String} {text : String} (h : Joined os text) : Lists text os := by
  refine ⟨"", text, "", isGap_empty, isGap_empty, h.mono ?_, ?_⟩
  · rintro _ ⟨before, after, hbefore, hafter, rfl⟩
    exact parts_comma (isGap_of_isBlank hbefore) (isGap_of_isBlank hafter)
  · rw [String.empty_append, String.append_empty]

theorem joined_intercalate (os : List String) : Joined os (",".intercalate os) := by
  have hblank : IsBlank "" := fun _ hc => absurd hc List.not_mem_nil
  induction os with
  | nil => exact .nil
  | cons o os ih =>
      cases os with
      | nil => exact .single o
      | cons p os =>
          rw [String.intercalate_cons_cons]
          exact .cons ⟨"", "", hblank, hblank, rfl⟩ ih

/-- The origins of a text are not empty, have no comma in them and no blank at their ends, and stand
in the text in their order; joined by commas, with any blanks around the commas, they are read again
as the same list. -/
theorem origins_read_again (s : String) :
    (∀ origin ∈ origins s, IsOrigin origin) ∧ Lists s (origins s) ∧
      origins (",".intercalate (origins s)) = origins s ∧
        ∀ text, Joined (origins s) text → origins text = origins s := by
  obtain ⟨hos, hlists⟩ := origins_eq_iff.mp (Eq.refl (origins s))
  have hagain : ∀ text, Joined (origins s) text → origins text = origins s :=
    fun text htext => origins_eq_iff.mpr ⟨hos, htext.lists⟩
  exact ⟨hos, hlists, hagain _ (joined_intercalate _), hagain⟩

/-- Two origins with commas and blanks around them. -/
def loose : String := ",\u3000http://localhost:3000 \t,, \n,http://localhost:8000\u00a0, "

theorem origins_read_again_loose :
    "http://localhost:8000" ∈ origins loose ∧ IsOrigin "http://localhost:8000" ∧
      Joined (origins loose) "http://localhost:3000 ,\t http://localhost:8000" ∧
        origins "http://localhost:3000 ,\t http://localhost:8000" = origins loose := by
  have hloose : origins loose = ["http://localhost:3000", "http://localhost:8000"] := by
    decide +kernel
  have hmem : "http://localhost:8000" ∈ origins loose := by
    rw [hloose]
    exact List.mem_cons_of_mem _ List.mem_cons_self
  have hjoined : Joined (origins loose) "http://localhost:3000 ,\t http://localhost:8000" := by
    have htext : "http://localhost:3000 ,\t http://localhost:8000" =
        "http://localhost:3000" ++ (" " ++ "," ++ "\t ") ++ "http://localhost:8000" := by
      decide +kernel
    rw [hloose, htext]
    exact .cons ⟨" ", "\t ", by decide +kernel, by decide +kernel, rfl⟩ (.single _)
  obtain ⟨hos, -, -, hagain⟩ := origins_read_again loose
  exact ⟨hmem, hos _ hmem, hjoined, hagain _ hjoined⟩

end Origins
end Scriptorium
