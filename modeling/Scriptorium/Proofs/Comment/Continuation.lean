import Mathlib.Data.List.Infix
import Scriptorium.Proofs.Comment.Written
set_option autoImplicit false

/-!
# Lines that go on with a parameter

An untagged line behind a tag goes on with what the tag began.  A line with `@param` that documents
no parameter begins nothing; what stands behind it goes to the parameter before it, if there is one.
So every parameter has its own lines and no others if and only if no such line is followed by text
behind a documented parameter (`params_own_iff_not_straying`).
-/

namespace Scriptorium.Comment

/-! ## Whose lines they are -/

/-- Whether a line has the tag of a parameter. -/
def isParamTag (line : List Char) : Bool := (behind? "@param".toList line).isSome

/-- Whether a line has no tag. -/
def isUntagged (line : List Char) : Bool := decide (line.head? ≠ some '@')

/-- The parameter that a line documents. -/
def documented? (line : List Char) : Option Param :=
  if isParamTag line then firstMatch Block.param? line else none

/-- Whether a line has the tag of a parameter and documents none. -/
def isMute (line : List Char) : Bool := isParamTag line && (documented? line).isNone

/-- A parameter whose description goes on in further lines. -/
def Param.goingOn (p : Param) (lines : List (List Char)) : Param :=
  lines.foldl (fun p line =>
    { p with description := p.description ++ "\n" ++ String.ofList line }) p

/-- The parameters of lines, each with the untagged lines right behind its tag. -/
def ownParams : List (List Char) → List Param
  | [] => []
  | line :: rest =>
    ((documented? line).map (·.goingOn (rest.takeWhile isUntagged))).toList ++ ownParams rest

/-- A tag that documents no parameter is followed by an untagged line. -/
def MuteThenText (lines : List (List Char)) : Prop :=
  ∃ tag text, isMute tag = true ∧ isUntagged text = true ∧ [tag, text] <:+: lines

/-- Somewhere behind a documented parameter, a tag that documents none is followed by an untagged
line. -/
def Straying (lines : List (List Char)) : Prop :=
  ∃ earlier between tag text, (documented? earlier).isSome = true ∧ isMute tag = true ∧
    isUntagged text = true ∧ earlier :: (between ++ [tag, text]) <:+: lines

/-! ## Kinds of lines -/

theorem head?_of_behind? {m : Char} {mark line : List Char} (hmark : mark.head? = some m)
    (h : (behind? mark line).isSome = true) : line.head? = some m := by
  cases mark with
  | nil => cases hmark
  | cons d mark =>
      obtain rfl : d = m := Option.some.inj hmark
      cases line with
      | nil => cases h
      | cons c cs =>
          by_cases hc : d = c
          · rw [hc, List.head?_cons]
          · simp [behind?, hc] at h

theorem isUntagged_of_head? {line : List Char} (h : line.head? = some '@') :
    isUntagged line = false := by
  simp [isUntagged, h]

theorem isUntagged_of_isParamTag {line : List Char} (h : isParamTag line = true) :
    isUntagged line = false :=
  isUntagged_of_head? (head?_of_behind? rfl h)

theorem isParamTag_of_isUntagged {line : List Char} (h : isUntagged line = true) :
    isParamTag line = false := by
  cases htag : isParamTag line with
  | false => rfl
  | true => exact absurd h (by simp [isUntagged_of_isParamTag htag])

theorem isParamTag_of_documented {line : List Char} {p : Param} (h : documented? line = some p) :
    isParamTag line = true := by
  by_contra htag
  simp [documented?, htag] at h

theorem documented?_of_not_isParamTag {line : List Char} (h : isParamTag line = false) :
    documented? line = none := by
  simp [documented?, h]

theorem isMute_of_documented?_eq_none {line : List Char} (h : documented? line = none) :
    isMute line = isParamTag line := by
  simp [isMute, h]

/-! ## One line -/

/-- What a line does to the parameters: an untagged one goes on with the last parameter if
parameters are the topic, and a tag adds the parameter that it documents. -/
theorem params_take (topic : Topic) (block : Block) (line : List Char) :
    (Block.take (topic, block) line).2.params =
      (if isUntagged line = true ∧ topic = .param then
        Block.continueParam (String.ofList line) block.params else block.params) ++
      (documented? line).toList := by
  unfold Block.take documented?
  rw [← isParamTag]
  dsimp only
  split
  · rename_i htag
    simp [isUntagged_of_isParamTag htag]
  · rw [Option.toList_none, List.append_nil]
    split
    · rename_i hreturn
      simp [isUntagged_of_head? (head?_of_behind? rfl hreturn)]
    · split
      · rename_i hat
        simp [isUntagged_of_head? hat]
      · rename_i hat
        cases topic <;> simp [Block.continue', isUntagged, hat]

/-- Parameters are the topic behind the tag of one and behind further untagged lines. -/
theorem topic_take_eq_param_iff (topic : Topic) (block : Block) (line : List Char) :
    (Block.take (topic, block) line).1 = .param ↔
      isParamTag line = true ∨ isUntagged line = true ∧ topic = .param := by
  unfold Block.take
  rw [← isParamTag]
  dsimp only
  split
  · rename_i htag
    simp [htag]
  · rename_i hother
    split
    · rename_i hreturn
      simp [hother, isUntagged_of_head? (head?_of_behind? rfl hreturn)]
    · split
      · rename_i hat
        simp [hother, isUntagged_of_head? hat]
      · rename_i hat
        simp [hother, isUntagged, hat]

/-! ## All lines -/

/-- The lines that the last parameter before them hears.  `listening` says whether parameters are
the topic. -/
def heard : Bool → List (List Char) → List (List Char)
  | _, [] => []
  | listening, line :: rest =>
    if (documented? line).isSome then []
    else if isUntagged line then (if listening then [line] else []) ++ heard listening rest
    else heard (isParamTag line) rest

/-- The parameters of lines, each with the lines that it hears. -/
def heardParams : List (List Char) → List Param
  | [] => []
  | line :: rest =>
      ((documented? line).map (·.goingOn (heard true rest))).toList ++ heardParams rest

/-- Parameters of which the last one goes on in further lines. -/
def lastGoingOn (params : List Param) (lines : List (List Char)) : List Param :=
  lines.foldl (fun params line => Block.continueParam (String.ofList line) params) params

theorem heard_cons (listening : Bool) (line : List Char) (rest : List (List Char)) :
    heard listening (line :: rest) =
      if (documented? line).isSome then []
      else if isUntagged line then (if listening then [line] else []) ++ heard listening rest
      else heard (isParamTag line) rest := rfl

theorem heardParams_cons (line : List Char) (rest : List (List Char)) :
    heardParams (line :: rest) =
      ((documented? line).map (·.goingOn (heard true rest))).toList ++ heardParams rest := rfl

theorem ownParams_cons (line : List Char) (rest : List (List Char)) :
    ownParams (line :: rest) =
      ((documented? line).map (·.goingOn (rest.takeWhile isUntagged))).toList ++
        ownParams rest := rfl

theorem lastGoingOn_nil (lines : List (List Char)) : lastGoingOn [] lines = [] := by
  induction lines with
  | nil => rfl
  | cons line rest ih => exact ih

theorem lastGoingOn_append (params : List Param) (p : Param) (lines : List (List Char)) :
    lastGoingOn (params ++ [p]) lines = params ++ [p.goingOn lines] := by
  induction lines generalizing p with
  | nil => rfl
  | cons line rest ih =>
      rw [lastGoingOn, List.foldl_cons, continueParam_append, ← lastGoingOn, ih]
      rfl

theorem heard_documented {line : List Char} {p : Param} (h : documented? line = some p)
    (listening : Bool) (rest : List (List Char)) : heard listening (line :: rest) = [] := by
  simp [heard_cons, h]

theorem heard_untagged {line : List Char} (h : isUntagged line = true) (listening : Bool)
    (rest : List (List Char)) :
    heard listening (line :: rest) =
      (if listening then [line] else []) ++ heard listening rest := by
  simp [heard_cons, h, documented?_of_not_isParamTag (isParamTag_of_isUntagged h)]

theorem heard_tagged {line : List Char} (hnone : documented? line = none)
    (htag : isUntagged line = false) (listening : Bool) (rest : List (List Char)) :
    heard listening (line :: rest) = heard (isParamTag line) rest := by
  simp [heard_cons, hnone, htag]

/-- What is read from lines: the last parameter before them goes on in the lines that it hears, and
so does every parameter that the lines document. -/
theorem params_foldl_take (lines : List (List Char)) (topic : Topic) (block : Block) :
    (lines.foldl Block.take (topic, block)).2.params =
      lastGoingOn block.params (heard (topic = .param) lines) ++ heardParams lines := by
  induction lines generalizing topic block with
  | nil => exact (List.append_nil _).symm
  | cons line rest ih =>
      have hparams := params_take topic block line
      have htopic := topic_take_eq_param_iff topic block line
      obtain ⟨topic', block', htake⟩ : ∃ topic' block',
          Block.take (topic, block) line = (topic', block') := ⟨_, _, rfl⟩
      rw [htake] at hparams htopic
      rw [List.foldl_cons, htake, ih, hparams, heardParams_cons]
      cases hdocumented : documented? line with
      | some p =>
          have htag := isParamTag_of_documented hdocumented
          have hlistening : topic' = .param := htopic.mpr (.inl htag)
          simp only [isUntagged_of_isParamTag htag, heard_documented hdocumented, hlistening,
            decide_true, Bool.false_eq_true, false_and, if_false, Option.toList_some,
            Option.map_some, lastGoingOn_append, List.append_assoc]
          rfl
      | none =>
          cases huntagged : isUntagged line with
          | true =>
              have hsame : topic' = .param ↔ topic = .param := by
                simpa [isParamTag_of_isUntagged huntagged, huntagged] using htopic
              have hlistening : decide (topic' = .param) = decide (topic = .param) :=
                decide_eq_decide.mpr hsame
              rw [heard_untagged huntagged, hlistening]
              by_cases hparam : topic = .param <;> simp [hparam, lastGoingOn]
          | false =>
              have htag : decide (topic' = .param) = isParamTag line := by
                rw [Bool.eq_iff_iff, decide_eq_true_iff]
                simpa [huntagged] using htopic
              rw [heard_tagged hdocumented huntagged, htag]
              simp

theorem params_parse (comment : String) :
    (Block.parse comment).params = heardParams (Block.lines comment) := by
  rw [Block.parse, params_foldl_take, lastGoingOn_nil, List.nil_append]

/-! ## Stray lines -/

/-- The last parameter hears the untagged lines up to the next tag, and then what it would hear if
it had not listened. -/
theorem heard_true (lines : List (List Char)) :
    heard true lines = lines.takeWhile isUntagged ++ heard false lines := by
  induction lines with
  | nil => rfl
  | cons line rest ih =>
      cases huntagged : isUntagged line with
      | true => simp [heard_untagged huntagged, huntagged, ih]
      | false =>
          rw [List.takeWhile_cons_of_neg (by simp [huntagged]), List.nil_append]
          cases hdocumented : documented? line with
          | some p => rw [heard_documented hdocumented, heard_documented hdocumented]
          | none => rw [heard_tagged hdocumented huntagged, heard_tagged hdocumented huntagged]

theorem length_description_goingOn (p : Param) (lines : List (List Char)) :
    p.description.length + lines.length ≤ (p.goingOn lines).description.length := by
  induction lines generalizing p with
  | nil => exact Nat.le_refl _
  | cons line rest ih =>
      have hrest := ih { p with description := p.description ++ "\n" ++ String.ofList line }
      have hgrown : p.description.length + 1 ≤
          (p.description ++ "\n" ++ String.ofList line).length := by
        rw [String.length_append, String.length_append]
        exact Nat.le_add_right _ _
      rw [Param.goingOn, List.foldl_cons, ← Param.goingOn, List.length_cons]
      dsimp only at hrest
      omega

/-- A description that goes on in more lines is another one. -/
theorem goingOn_append_eq_iff (p : Param) (lines more : List (List Char)) :
    p.goingOn (lines ++ more) = p.goingOn lines ↔ more = [] := by
  constructor
  · intro heq
    have hsplit : p.goingOn (lines ++ more) = (p.goingOn lines).goingOn more := List.foldl_append
    have hlength := length_description_goingOn (p.goingOn lines) more
    rw [← hsplit, heq] at hlength
    exact List.length_eq_zero_iff.mp (by omega)
  · rintro rfl
    rw [List.append_nil]

theorem muteThenText_cons (line : List Char) (rest : List (List Char)) :
    MuteThenText (line :: rest) ↔
      (isMute line = true ∧ rest.takeWhile isUntagged ≠ []) ∨ MuteThenText rest := by
  have hfirst : rest.takeWhile isUntagged ≠ [] ↔
      ∃ text, isUntagged text = true ∧ [text] <+: rest := by
    cases rest with
    | nil => simp
    | cons text rest => cases htext : isUntagged text <;> simp [htext]
  simp only [MuteThenText, List.infix_cons_iff, List.cons_prefix_cons, hfirst]
  constructor
  · rintro ⟨tag, text, hmute, huntagged, ⟨rfl, hprefix⟩ | hinfix⟩
    · exact .inl ⟨hmute, text, huntagged, hprefix⟩
    · exact .inr ⟨tag, text, hmute, huntagged, hinfix⟩
  · rintro (⟨hmute, text, huntagged, hprefix⟩ | ⟨tag, text, hmute, huntagged, hinfix⟩)
    · exact ⟨line, text, hmute, huntagged, .inl ⟨rfl, hprefix⟩⟩
    · exact ⟨tag, text, hmute, huntagged, .inr hinfix⟩

theorem straying_cons (line : List Char) (rest : List (List Char)) :
    Straying (line :: rest) ↔
      ((documented? line).isSome = true ∧ MuteThenText rest) ∨ Straying rest := by
  simp only [Straying, List.infix_cons_iff, List.cons_prefix_cons, MuteThenText]
  constructor
  · rintro ⟨earlier, between, tag, text, hearlier, hmute, huntagged, ⟨rfl, after, hrest⟩ | hinfix⟩
    · exact .inl ⟨hearlier, tag, text, hmute, huntagged, between, after, hrest⟩
    · exact .inr ⟨earlier, between, tag, text, hearlier, hmute, huntagged, hinfix⟩
  · rintro (⟨hearlier, tag, text, hmute, huntagged, between, after, hrest⟩ |
      ⟨earlier, between, tag, text, hearlier, hmute, huntagged, hinfix⟩)
    · exact ⟨line, between, tag, text, hearlier, hmute, huntagged, .inl ⟨rfl, after, hrest⟩⟩
    · exact ⟨earlier, between, tag, text, hearlier, hmute, huntagged, .inr hinfix⟩

theorem Straying.muteThenText {lines : List (List Char)} (h : Straying lines) :
    MuteThenText lines := by
  obtain ⟨earlier, between, tag, text, -, hmute, huntagged, hinfix⟩ := h
  refine ⟨tag, text, hmute, huntagged, List.IsInfix.trans ?_ hinfix⟩
  exact (List.suffix_append (earlier :: between) [tag, text]).isInfix

/-- A line that documents a parameter gives it its own lines, and the lines behind it are right, if
and only if nothing strays to it. -/
theorem heardParams_cons_eq_iff {line : List Char} {p : Param} (h : documented? line = some p)
    (rest : List (List Char)) :
    heardParams (line :: rest) = ownParams (line :: rest) ↔
      heard false rest = [] ∧ heardParams rest = ownParams rest := by
  simp only [heardParams_cons, ownParams_cons, h, Option.map_some, Option.toList_some,
    List.singleton_append, List.cons.injEq, heard_true, goingOn_append_eq_iff]

/-- Nothing is heard of lines before a tag, and all their parameters have their own lines, if and
only if no tag without a parameter is followed by text. -/
theorem heard_nil_and_own_iff (lines : List (List Char)) :
    heard false lines = [] ∧ heardParams lines = ownParams lines ↔ ¬MuteThenText lines := by
  induction lines with
  | nil => exact iff_of_true ⟨rfl, rfl⟩ (by simp [MuteThenText])
  | cons line rest ih =>
      rw [muteThenText_cons]
      cases hdocumented : documented? line with
      | some p =>
          rw [heardParams_cons_eq_iff hdocumented, heard_documented hdocumented, ih]
          simp [isMute, hdocumented]
      | none =>
          have hskip : heardParams (line :: rest) = ownParams (line :: rest) ↔
              heardParams rest = ownParams rest := by
            simp [heardParams_cons, ownParams_cons, hdocumented]
          rw [hskip, isMute_of_documented?_eq_none hdocumented]
          cases huntagged : isUntagged line with
          | true =>
              rw [heard_untagged huntagged]
              simpa [isParamTag_of_isUntagged huntagged] using ih
          | false =>
              rw [heard_tagged hdocumented huntagged]
              cases htag : isParamTag line with
              | false => simpa using ih
              | true =>
                  rw [heard_true, List.append_eq_nil_iff, and_assoc, ih]
                  simp [not_or]

/-- Every parameter of lines has its own lines if and only if nothing strays. -/
theorem heardParams_eq_own_iff (lines : List (List Char)) :
    heardParams lines = ownParams lines ↔ ¬Straying lines := by
  induction lines with
  | nil => exact iff_of_true rfl (by simp [Straying])
  | cons line rest ih =>
      rw [straying_cons]
      cases hdocumented : documented? line with
      | some p =>
          rw [heardParams_cons_eq_iff hdocumented, heard_nil_and_own_iff, Option.isSome_some]
          constructor
          · rintro hnone (⟨-, hmute⟩ | hstray)
            · exact hnone hmute
            · exact hnone hstray.muteThenText
          · exact fun hnone hmute => hnone (.inl ⟨rfl, hmute⟩)
      | none =>
          have hskip : heardParams (line :: rest) = ownParams (line :: rest) ↔
              heardParams rest = ownParams rest := by
            simp [heardParams_cons, ownParams_cons, hdocumented]
          rw [hskip, ih]
          simp

/-- The parameters of a comment are those of its tags, each with the untagged lines right behind its
tag and with no others, if and only if nowhere behind a documented parameter a tag that documents
none is followed by an untagged line. -/
theorem params_own_iff_not_straying (comment : String) :
    (Block.parse comment).params = ownParams (Block.lines comment) ↔
      ¬Straying (Block.lines comment) := by
  rw [params_parse]
  exact heardParams_eq_own_iff _

/-- The tag of `b` gives no type and documents nothing, and the text behind it goes to `a`. -/
theorem untyped_text_goes_to_earlier :
    let comment := "@param \x7bnumber\x7d a - first\n@param b\nsecond"
    (Block.parse comment).params = [⟨"a", some "number", "first\nsecond", true⟩] ∧
      ownParams (Block.lines comment) = [⟨"a", some "number", "first", true⟩] := by
  decide +kernel

end Scriptorium.Comment
