import Scriptorium.Text.Case
import Scriptorium.Text.Search
set_option autoImplicit false

/-!
# Lower forms of parts

The lower form of a text is made of the lower forms of its parts, except for capital sigmas, whose
form hangs on what stands around them.  `lowerWithin` is the lower form of a part in its place.  A
part that is cut out of a text keeps its lower form unless a sigma at one of its ends changes
(`lowerWithin_eq_iff`): one that opens the part and ends a word of the text, or one that ends a word
of the part and does not in the text.  What holds no sigma is found wherever it is found with every
character lowered on its own (`occursIn_lowerChars_iff`).
-/

namespace Scriptorium.Text

/-- A part stands in a text just if the text is the part with something before and behind it. -/
theorem occursIn_iff_isInfix (part cs : List Char) : occursIn part cs = true ↔ part <:+: cs := by
  induction cs with
  | nil => simp [occursIn]
  | cons c rest ih => simp [occursIn, List.infix_cons_iff, ih]

/-! ## A part in its place -/

/-- Whether a capital sigma between two texts, of which the first is reversed, ends a word. -/
def endsWord (before after : List Char) : Bool := casedNext before && !casedNext after

/-- The lower form of a capital sigma. -/
def lowerSigma (final : Bool) : Char := if final then Char.ofNat 0x3C2 else Char.ofNat 0x3C3

/-- The lower form of a part of a text; `before` holds what stands before it in reverse, and `after`
what stands behind it. -/
def lowerWithin (before : List Char) : List Char → List Char → List Char
  | [], _ => []
  | c :: rest, after =>
    (if c = capitalSigma then [lowerSigma (endsWord before (rest ++ after))] else lowerChar c) ++
      lowerWithin (c :: before) rest after

theorem lowerFrom_append (before part after : List Char) :
    lowerFrom before (part ++ after) =
      lowerWithin before part after ++ lowerFrom (part.reverse ++ before) after := by
  induction part generalizing before with
  | nil => rfl
  | cons c rest ih =>
      simp only [List.cons_append, lowerFrom, lowerWithin, ih, List.append_assoc, List.reverse_cons]
      rfl

theorem lowerChars_eq_lowerWithin (part : List Char) :
    lowerChars part = lowerWithin [] part [] := by
  have happend := lowerFrom_append [] part []
  rwa [List.append_nil, lowerFrom, List.append_nil] at happend

/-- The lower form of a text holds that of each part, in its place. -/
theorem lowerWithin_isInfix (before part after : List Char) :
    lowerWithin before.reverse part after <:+: lowerChars (before ++ part ++ after) := by
  rw [List.append_assoc, lowerChars, lowerFrom_append, List.append_nil, lowerFrom_append,
    ← List.append_assoc]
  exact List.infix_append _ _ _

theorem lowerSigma_inj (left right : Bool) : lowerSigma left = lowerSigma right ↔ left = right := by
  cases left <;> cases right <;> decide

/-- The places of a character in a text with one character more. -/
theorem forall_place_cons {P : List Char → List Char → Prop} (x c : Char) (cs : List Char) :
    (∀ front rest, c :: cs = front ++ x :: rest → P front rest) ↔
      (c = x → P [] cs) ∧ ∀ front rest, cs = front ++ x :: rest → P (c :: front) rest := by
  constructor
  · intro h
    refine ⟨?_, ?_⟩
    · rintro rfl
      exact h [] cs rfl
    · rintro front rest rfl
      exact h (c :: front) rest rfl
  · rintro ⟨hfirst, hlater⟩ front rest heq
    cases front with
    | nil =>
        obtain ⟨rfl, rfl⟩ := List.cons.inj heq
        exact hfirst rfl
    | cons d front =>
        obtain ⟨rfl, htail⟩ := List.cons.inj heq
        exact hlater front rest htail

/-- A part has the same lower form in two places just if each of its capital sigmas ends a word in
both or in neither. -/
theorem lowerWithin_congr_iff (part before before' after after' : List Char) :
    lowerWithin before part after = lowerWithin before' part after' ↔
      ∀ front rest, part = front ++ capitalSigma :: rest →
        endsWord (front.reverse ++ before) (rest ++ after) =
          endsWord (front.reverse ++ before') (rest ++ after') := by
  induction part generalizing before before' with
  | nil => simp [lowerWithin]
  | cons c part ih =>
      rw [forall_place_cons]
      simp only [lowerWithin, List.reverse_cons, List.append_assoc, List.singleton_append, ← ih,
        List.reverse_nil, List.nil_append]
      by_cases hsigma : c = capitalSigma
      · simp [hsigma, lowerSigma_inj]
      · simp [hsigma]

/-! ## Cutting out -/

/-- What stands behind a capital sigma that is the first character which case does not ignore. -/
def behindSigma? (cs : List Char) : Option (List Char) :=
  match cs.dropWhile isCaseIgnorable with
  | c :: rest => if c = capitalSigma then some rest else none
  | [] => none

/-- Whether a capital sigma changes its lower form when a part is cut out of a text: the part opens
with a sigma that ends a word of the text, or it closes with a sigma that ends a word of the part
and not of the text. -/
def cutsSigma (before part after : List Char) : Bool :=
  ((behindSigma? part).any fun rest => endsWord before.reverse (rest ++ after)) ||
    ((behindSigma? part.reverse).any fun front => casedNext front && casedNext after)

theorem casedNext_append (cs more : List Char) :
    casedNext (cs ++ more) =
      if cs.all isCaseIgnorable then casedNext more else casedNext cs := by
  induction cs with
  | nil => rfl
  | cons c rest ih =>
      unfold casedNext at ih ⊢
      cases hskipped : isCaseIgnorable c with
      | true => simpa [List.dropWhile_cons, hskipped] using ih
      | false => simp [hskipped]

theorem casedNext_of_all {cs : List Char} (h : cs.all isCaseIgnorable = true) :
    casedNext cs = false := by
  have happend := casedNext_append cs []
  rw [List.append_nil, if_pos h] at happend
  exact happend

theorem casedNext_append_of_cased {cs : List Char} (h : casedNext cs = true) (more : List Char) :
    casedNext (cs ++ more) = true := by
  rw [casedNext_append]
  split
  · rename_i hskipped
    rw [casedNext_of_all hskipped] at h
    cases h
  · exact h

/-- A sigma opens a text if only what case ignores stands before it. -/
theorem behindSigma?_eq_some_iff (cs rest : List Char) :
    behindSigma? cs = some rest ↔
      ∃ front, cs = front ++ capitalSigma :: rest ∧ front.all isCaseIgnorable = true := by
  have hsigma : isCaseIgnorable capitalSigma = false := by decide
  constructor
  · intro h
    refine ⟨cs.takeWhile isCaseIgnorable, ?_, List.all_takeWhile⟩
    have hsplit := List.takeWhile_append_dropWhile (p := isCaseIgnorable) (l := cs)
    unfold behindSigma? at h
    split at h
    · rename_i c tail hdrop
      split at h
      · rename_i hc
        obtain rfl := Option.some.inj h
        rw [← hc, ← hdrop, hsplit]
      · cases h
    · cases h
  · rintro ⟨front, rfl, hfront⟩
    have hdrop : (front ++ capitalSigma :: rest).dropWhile isCaseIgnorable =
        capitalSigma :: rest := by
      rw [List.dropWhile_append_of_pos (List.all_eq_true.mp hfront)]
      exact List.dropWhile_cons_of_neg (by simp [hsigma])
    simp only [behindSigma?, hdrop, if_true]

section Keeps

variable (front rest before after : List Char)

/-- A sigma that opens a part ends no word of it. -/
theorem opening_keeps_iff (hfront : front.all isCaseIgnorable = true) :
    endsWord (front.reverse ++ before) (rest ++ after) = endsWord front.reverse rest ↔
      endsWord before (rest ++ after) = false := by
  have hskipped : front.reverse.all isCaseIgnorable = true := by rwa [List.all_reverse]
  have hnone : casedNext front.reverse = false := casedNext_of_all hskipped
  simp only [endsWord, casedNext_append, hskipped, hnone, if_true, Bool.false_and]

/-- A sigma that closes a part and does not open it ends a word of it if something with case stands
before it. -/
theorem closing_keeps_iff (hfront : front.all isCaseIgnorable = false)
    (hrest : rest.all isCaseIgnorable = true) :
    endsWord (front.reverse ++ before) (rest ++ after) = endsWord front.reverse rest ↔
      (casedNext front.reverse && casedNext after) = false := by
  have hkept : front.reverse.all isCaseIgnorable = false := by rwa [List.all_reverse]
  simp only [endsWord, casedNext_append, hkept, hrest, casedNext_of_all hrest, if_true,
    Bool.false_eq_true, if_false]
  cases casedNext front.reverse <;> cases casedNext after <;> simp

/-- Any other sigma of a part has all that its form hangs on inside the part. -/
theorem inner_keeps (hfront : front.all isCaseIgnorable = false)
    (hrest : rest.all isCaseIgnorable = false) :
    endsWord (front.reverse ++ before) (rest ++ after) = endsWord front.reverse rest := by
  simp only [endsWord, casedNext_append, List.all_reverse, hfront, hrest, Bool.false_eq_true,
    if_false]

end Keeps

/-- A sigma closes a text if only what case ignores stands behind it. -/
theorem behindSigma?_reverse_eq_some_iff (cs front : List Char) :
    behindSigma? cs.reverse = some front.reverse ↔
      ∃ rest, cs = front ++ capitalSigma :: rest ∧ rest.all isCaseIgnorable = true := by
  rw [behindSigma?_eq_some_iff]
  constructor
  · rintro ⟨rest, heq, hrest⟩
    refine ⟨rest.reverse, ?_, by rwa [List.all_reverse]⟩
    rw [← List.reverse_reverse cs, heq]
    simp
  · rintro ⟨rest, rfl, hrest⟩
    exact ⟨rest.reverse, by simp, by rwa [List.all_reverse]⟩

theorem cutsSigma_eq_false_iff (before part after : List Char) :
    cutsSigma before part after = false ↔
      ∀ front rest, part = front ++ capitalSigma :: rest →
        (front.all isCaseIgnorable = true → endsWord before.reverse (rest ++ after) = false) ∧
        (rest.all isCaseIgnorable = true →
          (casedNext front.reverse && casedNext after) = false) := by
  rw [cutsSigma, Bool.or_eq_false_iff, Option.any_eq_false, Option.any_eq_false]
  constructor
  · rintro ⟨hopening, hclosing⟩ front rest hpart
    refine ⟨?_, ?_⟩
    · intro hfront
      exact hopening rest ((behindSigma?_eq_some_iff part rest).mpr ⟨front, hpart, hfront⟩)
    · intro hrest
      exact hclosing front.reverse
        ((behindSigma?_reverse_eq_some_iff part front).mpr ⟨rest, hpart, hrest⟩)
  · intro hsigmas
    refine ⟨?_, ?_⟩
    · intro rest hopening
      obtain ⟨front, hpart, hfront⟩ := (behindSigma?_eq_some_iff part rest).mp hopening
      exact (hsigmas front rest hpart).1 hfront
    · intro front hclosing
      rw [← List.reverse_reverse front] at hclosing
      obtain ⟨rest, hpart, hrest⟩ := (behindSigma?_reverse_eq_some_iff part _).mp hclosing
      have hcut := (hsigmas front.reverse rest hpart).2 hrest
      rwa [List.reverse_reverse] at hcut

/-- A part that is cut out of a text keeps its lower form just if no sigma is cut. -/
theorem lowerWithin_eq_iff (before part after : List Char) :
    lowerWithin before.reverse part after = lowerChars part ↔
      cutsSigma before part after = false := by
  rw [lowerChars_eq_lowerWithin, lowerWithin_congr_iff, cutsSigma_eq_false_iff]
  simp only [List.append_nil]
  refine forall_congr' fun front => forall_congr' fun rest => imp_congr_right fun _ => ?_
  cases hfront : front.all isCaseIgnorable with
  | true =>
      have hnone : casedNext front.reverse = false := casedNext_of_all (by rwa [List.all_reverse])
      simp [opening_keeps_iff _ _ _ _ hfront, hnone]
  | false =>
      cases hrest : rest.all isCaseIgnorable with
      | true => simp [closing_keeps_iff _ _ _ _ hfront hrest]
      | false => simp [inner_keeps _ _ _ _ hfront hrest]

/-! ## Finding a part whatever its case -/

/-- A text holds a part in a place where no sigma is cut. -/
def HoldsUncut (part text : List Char) : Prop :=
  ∃ before after, text = before ++ part ++ after ∧ cutsSigma before part after = false

/-- A part that stands in a text, with no sigma cut, is found when both are lowered. -/
theorem occursIn_lower {part text : List Char} (h : HoldsUncut part text) :
    occursIn (lowerChars part) (lowerChars text) = true := by
  obtain ⟨before, after, rfl, huncut⟩ := h
  rw [occursIn_iff_isInfix, ← (lowerWithin_eq_iff before part after).mpr huncut]
  exact lowerWithin_isInfix before part after

/-- Whether no sigma of a part can be cut: what follows an opening one has case, and nothing with
case stands before a closing one. -/
def keepsSigmas (part : List Char) : Bool :=
  (behindSigma? part).all casedNext && (behindSigma? part.reverse).all fun front => !casedNext front

theorem cutsSigma_of_keepsSigmas {part : List Char} (h : keepsSigmas part = true)
    (before after : List Char) : cutsSigma before part after = false := by
  rw [keepsSigmas, Bool.and_eq_true, Option.all_eq_true, Option.all_eq_true] at h
  obtain ⟨hopening, hclosing⟩ := h
  rw [cutsSigma, Bool.or_eq_false_iff, Option.any_eq_false, Option.any_eq_false]
  refine ⟨?_, ?_⟩
  · intro rest hrest
    rw [endsWord, casedNext_append_of_cased (hopening rest hrest), Bool.not_true, Bool.and_false]
  · intro front hfront
    have hnone : casedNext front = false := by simpa using hclosing front hfront
    rw [hnone, Bool.false_and]

/-- If every sigma of a part that has one form in one place has it in another as well, the form is
no rarer there; and it is more frequent unless the lower forms are the same. -/
theorem count_lowerWithin (final : Bool) {part before before' after after' : List Char}
    (h : ∀ front rest, part = front ++ capitalSigma :: rest →
      endsWord (front.reverse ++ before) (rest ++ after) = final →
        endsWord (front.reverse ++ before') (rest ++ after') = final) :
    (lowerWithin before part after).count (lowerSigma final) ≤
        (lowerWithin before' part after').count (lowerSigma final) ∧
      ((lowerWithin before part after).count (lowerSigma final) =
          (lowerWithin before' part after').count (lowerSigma final) →
        lowerWithin before part after = lowerWithin before' part after') := by
  induction part generalizing before before' with
  | nil => exact ⟨Nat.le_refl _, fun _ => rfl⟩
  | cons c part ih =>
      rw [forall_place_cons] at h
      obtain ⟨hfirst, hlater⟩ := h
      simp only [List.reverse_cons, List.append_assoc, List.singleton_append] at hlater
      obtain ⟨hle, hsame⟩ := ih hlater
      by_cases hsigma : c = capitalSigma
      · have hhead := hfirst hsigma
        simp only [List.reverse_nil, List.nil_append] at hhead
        simp only [lowerWithin, hsigma, if_true, List.singleton_append, List.count_cons, beq_iff_eq,
          lowerSigma_inj, List.cons.injEq]
        rw [← hsigma]
        generalize endsWord before (part ++ after) = here at hhead
        generalize endsWord before' (part ++ after') = there at hhead
        -- the first sigma has the form in neither place, in both, or in the second alone
        by_cases hhere : here = final
        · have hthere := hhead hhere
          subst hhere
          simp only [hthere, if_true, true_and]
          refine ⟨by omega, fun heq => hsame (by omega)⟩
        · by_cases hthere : there = final
          · simp only [hhere, hthere, if_true, if_false]
            refine ⟨by omega, fun heq => ?_⟩
            omega
          · have hboth : here = there := by
              cases here <;> cases there <;> simp_all
            simp only [hboth, true_and]
            refine ⟨by omega, fun heq => hsame (by omega)⟩
      · simp only [lowerWithin, hsigma, if_false, List.count_append, List.append_right_inj]
        exact ⟨by omega, fun heq => hsame (by omega)⟩

/-- If cutting a part out of a text takes the form `final` from no sigma and gives it to one, the
part has this form once more than the text, and is not found there. -/
theorem not_occursIn_lower (final : Bool) {before part after : List Char}
    (hcut : cutsSigma before part after = true)
    (hform : ∀ front rest, part = front ++ capitalSigma :: rest →
      endsWord (front.reverse ++ before.reverse) (rest ++ after) = final →
        endsWord (front.reverse ++ []) (rest ++ []) = final)
    (haround : (lowerChars (before ++ part ++ after)).count (lowerSigma final) =
      (lowerWithin before.reverse part after).count (lowerSigma final)) :
    occursIn (lowerChars part) (lowerChars (before ++ part ++ after)) = false := by
  have hchanged : lowerWithin before.reverse part after ≠ lowerWithin [] part [] := by
    rw [← lowerChars_eq_lowerWithin, Ne, lowerWithin_eq_iff, hcut]
    simp
  obtain ⟨hle, hsame⟩ := count_lowerWithin final hform
  rw [← Bool.not_eq_true, occursIn_iff_isInfix]
  intro hinfix
  have hmore := hinfix.sublist.count_le (lowerSigma final)
  rw [haround, lowerChars_eq_lowerWithin] at hmore
  exact hchanged (hsame (Nat.le_antisymm hle hmore))

/-- What stands around a part does not count if it is a letter. -/
theorem count_around (final : Bool) {before part after : List Char}
    (hbefore : before = [] ∨ before = ['a']) (hafter : after = [] ∨ after = ['a']) :
    (lowerChars (before ++ part ++ after)).count (lowerSigma final) =
      (lowerWithin before.reverse part after).count (lowerSigma final) := by
  have hletter : lowerChar 'a' = ['a'] ∧ 'a' ≠ capitalSigma := by decide
  have hother : lowerSigma final ∉ ['a'] := by cases final <;> decide
  have hfront : (lowerWithin [] before (part ++ after)).count (lowerSigma final) = 0 := by
    apply List.count_eq_zero.mpr
    rcases hbefore with rfl | rfl
    · exact List.not_mem_nil
    · simpa [lowerWithin, hletter] using hother
  have hrest : (lowerFrom (part.reverse ++ before.reverse) after).count (lowerSigma final) = 0 := by
    apply List.count_eq_zero.mpr
    rcases hafter with rfl | rfl
    · exact List.not_mem_nil
    · simpa [lowerFrom, hletter] using hother
  rw [List.append_assoc, lowerChars, lowerFrom_append, List.append_nil, lowerFrom_append,
    List.count_append, List.count_append, hfront, hrest, Nat.zero_add, Nat.add_zero]

theorem casedNext_letter : casedNext ['a'] = true := by decide

/-- Behind a letter an opening sigma ends a word, unless something with case follows it. -/
theorem missed_behind_letter {part rest : List Char} (hopening : behindSigma? part = some rest)
    (hnone : casedNext rest = false) :
    occursIn (lowerChars part) (lowerChars (['a'] ++ part ++ [])) = false := by
  apply not_occursIn_lower false
  · simp [cutsSigma, hopening, endsWord, casedNext_letter, hnone]
  · intro front behind _ hplain
    cases hfront : front.all isCaseIgnorable with
    | true =>
        have hskipped : casedNext front.reverse = false :=
          casedNext_of_all (by rwa [List.all_reverse])
        simp [endsWord, hskipped]
    | false => simpa [endsWord, casedNext_append, hfront] using hplain
  · exact count_around false (.inr rfl) (.inl rfl)

/-- Before a letter a closing sigma ends no word, though it does where the text ends. -/
theorem missed_before_letter {part front : List Char}
    (hclosing : behindSigma? part.reverse = some front) (hcased : casedNext front = true) :
    occursIn (lowerChars part) (lowerChars ([] ++ part ++ ['a'])) = false := by
  apply not_occursIn_lower true
  · simp [cutsSigma, hclosing, casedNext_letter, hcased]
  · intro before rest _ hfinal
    cases hrest : rest.all isCaseIgnorable with
    | true => simp [endsWord, casedNext_append, hrest, casedNext_letter] at hfinal
    | false => simpa [endsWord, casedNext_append, hrest] using hfinal
  · exact count_around true (.inl rfl) (.inr rfl)

/-- A part is found in every text that holds it just if none of its sigmas can be cut. -/
theorem occursIn_lower_iff_keepsSigmas (part : List Char) :
    (∀ text, part <:+: text → occursIn (lowerChars part) (lowerChars text) = true) ↔
      keepsSigmas part = true := by
  constructor
  · intro hfound
    rw [keepsSigmas, Bool.and_eq_true, Option.all_eq_true, Option.all_eq_true]
    refine ⟨?_, ?_⟩
    · intro rest hopening
      have hthere := hfound _ (List.infix_append ['a'] part [])
      cases hcased : casedNext rest with
      | true => rfl
      | false =>
          rw [missed_behind_letter hopening hcased] at hthere
          cases hthere
    · intro front hclosing
      have hthere := hfound _ (List.infix_append [] part ['a'])
      cases hcased : casedNext front with
      | false => rfl
      | true =>
          rw [missed_before_letter hclosing hcased] at hthere
          cases hthere
  · rintro hkeeps _ ⟨before, after, rfl⟩
    exact occursIn_lower ⟨before, after, rfl, cutsSigma_of_keepsSigmas hkeeps before after⟩

/-! ## Parts without a small sigma

Only the choice between the two small sigmas hangs on what stands around a character.  A part that
holds neither is found in the lower form of a text just if it is found when every character is
lowered on its own.
-/

/-- The character, with the sigma that ends words written like the other one. -/
def medial (c : Char) : Char := if c = lowerSigma true then lowerSigma false else c

theorem medial_lowerSigma (final : Bool) : medial (lowerSigma final) = lowerSigma false := by
  cases final <;> decide

theorem map_medial_lowerFrom (before cs : List Char) :
    (lowerFrom before cs).map medial = (cs.flatMap lowerChar).map medial := by
  induction cs generalizing before with
  | nil => rfl
  | cons c rest ih =>
      rw [lowerFrom, List.flatMap_cons, List.map_append, List.map_append, ih]
      congr 1
      split
      · rename_i hsigma
        have hlower : (lowerChar c).map medial = [lowerSigma false] := by
          rw [hsigma]
          decide
        rw [hlower, List.map_singleton]
        exact congrArg (· :: []) (medial_lowerSigma (endsWord before rest))
      · rfl

theorem medial_eq_iff {c d : Char} (h : ∀ final, lowerSigma final ≠ d) : medial c = d ↔ c = d := by
  unfold medial
  split
  · rename_i hfinal
    rw [hfinal]
    exact iff_of_false (h false) (h true)
  · rfl

theorem map_medial_eq_iff {cs part : List Char} (h : ∀ final, lowerSigma final ∉ part) :
    cs.map medial = part ↔ cs = part := by
  induction cs generalizing part with
  | nil => exact Iff.rfl
  | cons c rest ih =>
      cases part with
      | nil => simp
      | cons d part =>
          have hd : ∀ final, lowerSigma final ≠ d := fun final heq =>
            h final (heq ▸ List.mem_cons_self)
          have hpart : ∀ final, lowerSigma final ∉ part := fun final hmem =>
            h final (List.mem_cons_of_mem d hmem)
          rw [List.map_cons, List.cons.injEq, List.cons.injEq, medial_eq_iff hd, ih hpart]

theorem isInfix_map_medial_iff {cs part : List Char} (h : ∀ final, lowerSigma final ∉ part) :
    part <:+: cs.map medial ↔ part <:+: cs := by
  constructor
  · rintro ⟨before, after, heq⟩
    obtain ⟨front, after', rfl, hfront, -⟩ := List.map_eq_append_iff.mp heq.symm
    obtain ⟨before', part', rfl, -, hpart⟩ := List.map_eq_append_iff.mp hfront
    obtain rfl := (map_medial_eq_iff h).mp hpart
    exact ⟨before', after', rfl⟩
  · intro hinfix
    have hmap := hinfix.map medial
    rwa [(map_medial_eq_iff h).mpr rfl] at hmap

/-- A part without a small sigma is found just if it is found with every character lowered on its
own. -/
theorem occursIn_lowerChars_iff {part : List Char} (h : ∀ final, lowerSigma final ∉ part)
    (cs : List Char) : occursIn part (lowerChars cs) = true ↔ part <:+: cs.flatMap lowerChar := by
  rw [occursIn_iff_isInfix, ← isInfix_map_medial_iff h, lowerChars, map_medial_lowerFrom,
    isInfix_map_medial_iff h]

end Scriptorium.Text
