import Mathlib.Data.List.Basic
import Mathlib.Data.List.TakeWhile
import Scriptorium.Comment.Block
set_option autoImplicit false

/-!
# Writing block comments

`Doc.written` writes the documentation of a function as a block comment: first the description,
then a tag for each parameter, then one for the result, each line behind a star.  What is read from
the comment is what was written (`parse_written`).  The lines of a text must not look like something
else: they are not empty, have no space at their ends, and do not open with a tag or with what is
taken off in front of a line.
-/

namespace Scriptorium.Comment

/-! ## Documentation in lines -/

/-- A line of text. -/
structure Line where
  chars : List Char
  ne_nil : chars ≠ []
  unbroken : ∀ c ∈ chars, isLineBreak c = false
  opens : ∀ c ∈ chars.head?, isSpace c = false ∧ c ≠ '@' ∧ c ≠ '*' ∧ c ≠ '/'
  closes : ∀ c ∈ chars.getLast?, isSpace c = false

/-- The characters of lines. -/
def charsOf (lines : List Line) : List (List Char) := lines.map Line.chars

theorem charsOf_cons (line : Line) (lines : List Line) :
    charsOf (line :: lines) = line.chars :: charsOf lines := rfl

/-- A description that begins behind a tag, if there is anything behind it, and goes on in further
lines. -/
structure Prose where
  first : Option Line
  more : List Line

/-- The text between the braces of a tag. -/
structure TypeText where
  chars : List Char
  inner : ∀ c ∈ chars, c ≠ '\x7d' ∧ isLineBreak c = false

/-- The documentation of a parameter. -/
structure ParamTag where
  type : TypeText
  name : List Char
  prose : Prose
  name_ne_nil : name ≠ []
  name_word : ∀ c ∈ name, isWord c = true

/-- The documentation of a result, of which the type is given. -/
structure ReturnsTag where
  type : TypeText
  prose : Prose
  type_ne_nil : type.chars ≠ []

/-- The documentation of a function. -/
structure Doc where
  description : List Line
  params : List ParamTag
  returns : Option ReturnsTag

/-! ## What is written -/

/-- What stands behind the tag, or nothing. -/
def Prose.opening (p : Prose) : List Char := (p.first.map Line.chars).getD []

/-- What stands behind the tag, with a dash before it, or nothing. -/
def Prose.dashed (p : Prose) : List Char :=
  (p.first.map fun line => ' ' :: '-' :: ' ' :: line.chars).getD []

/-- A tag with a type between braces, and what stands behind it. -/
def tagged (tag : String) (type : TypeText) (rest : List Char) : List Char :=
  tag.toList ++ ' ' :: '\x7b' :: (type.chars ++ '\x7d' :: rest)

/-- The line of a parameter's tag. -/
def ParamTag.line (t : ParamTag) : List Char :=
  tagged "@param" t.type (' ' :: (t.name ++ t.prose.dashed))

/-- The line of a result's tag. -/
def ReturnsTag.line (t : ReturnsTag) : List Char :=
  tagged "@returns" t.type (' ' :: t.prose.opening)

/-- The lines of documentation, without stars, of which `result` is that of the result's tag. -/
def Doc.lines (d : Doc) (result : ReturnsTag → List Char) : List (List Char) :=
  charsOf d.description ++ d.params.flatMap (fun t => t.line :: charsOf t.prose.more) ++
    (d.returns.map fun t => result t :: charsOf t.prose.more).getD []

/-- Documentation as the text of a block comment. -/
def Doc.written (d : Doc) : String :=
  "\n".intercalate ("*" :: (d.lines ReturnsTag.line).map fun line => " * " ++ String.ofList line)

/-! ## What is meant -/

/-- Lines as one text. -/
def joined (lines : List (List Char)) : String := "\n".intercalate (lines.map String.ofList)

/-- The text of a description. -/
def Prose.text (p : Prose) : String := joined (p.opening :: charsOf p.more)

/-- The parameter that a tag documents: it may be left out if its type has an equals sign. -/
def ParamTag.param (t : ParamTag) : Param :=
  ⟨String.ofList t.name, some (String.ofList t.type.chars), t.prose.text,
    decide ('=' ∉ t.type.chars)⟩

/-- The result that a tag documents. -/
def ReturnsTag.returns (t : ReturnsTag) : Returns :=
  ⟨String.ofList t.type.chars, t.prose.text⟩

/-- What documentation says. -/
def Doc.block (d : Doc) : Block where
  description := joined (charsOf d.description)
  params := d.params.map ParamTag.param
  returns := d.returns.map ReturnsTag.returns

/-! ## Lines behind stars -/

theorem splitAtChar_eq_splitOn (mark : Char) (cs : List Char) :
    Text.splitAtChar mark cs = cs.splitOn mark := by
  induction cs with
  | nil => rfl
  | cons c rest ih =>
      rw [Text.splitAtChar, List.splitOn_cons_eq_if_modifyHead, ih]
      simp only [beq_iff_eq]
      split
      · rfl
      · have hsome := List.splitOn_ne_nil mark rest
        cases hpieces : rest.splitOn mark with
        | nil => exact absurd hpieces hsome
        | cons piece pieces => rfl

theorem dropWhile_append_of_head (lead rest : List Char) (hlead : ∀ c ∈ lead, isSpace c = true)
    (hrest : ∀ c ∈ rest.head?, isSpace c = false) :
    (lead ++ rest).dropWhile isSpace = rest := by
  rw [List.dropWhile_append_of_pos hlead]
  cases rest with
  | nil => rfl
  | cons c rest => exact List.dropWhile_cons_of_neg (by simp [hrest c rfl])

/-- Only the spaces around a text are stripped. -/
theorem strip_append {lead body trail : List Char} (hlead : ∀ c ∈ lead, isSpace c = true)
    (htrail : ∀ c ∈ trail, isSpace c = true) (hne : body ≠ [])
    (hopens : ∀ c ∈ body.head?, isSpace c = false)
    (hcloses : ∀ c ∈ body.getLast?, isSpace c = false) : strip (lead ++ body ++ trail) = body := by
  have hfront : (lead ++ (body ++ trail)).dropWhile isSpace = body ++ trail := by
    refine dropWhile_append_of_head _ _ hlead ?_
    rwa [List.head?_append_of_ne_nil body hne]
  have hback : (trail.reverse ++ body.reverse).dropWhile isSpace = body.reverse := by
    refine dropWhile_append_of_head _ _ (fun c hc => htrail c (List.mem_reverse.mp hc)) ?_
    rwa [List.head?_reverse]
  rw [strip, List.append_assoc, hfront, List.reverse_append, hback, List.reverse_reverse]

/-- A line behind a star is read without it and without the spaces behind the line. -/
theorem withoutStar_starred (body trail : List Char) (htrail : ∀ c ∈ trail, isSpace c = true)
    (hne : body ≠ []) (hopens : ∀ c ∈ body.head?, isSpace c = false ∧ c ≠ '/')
    (hcloses : ∀ c ∈ body.getLast?, isSpace c = false) :
    Block.withoutStar (" * ".toList ++ (body ++ trail)) = body := by
  have hstrip : strip ([' '] ++ ('*' :: ' ' :: body) ++ trail) = '*' :: ' ' :: body := by
    refine strip_append (by simp [isSpace]) htrail (List.cons_ne_nil _ _) (by simp [isSpace]) ?_
    rwa [List.getLast?_cons_cons, List.getLast?_cons_of_ne_nil hne]
  have htext : " * ".toList ++ (body ++ trail) = [' '] ++ ('*' :: ' ' :: body) ++ trail := rfl
  obtain ⟨c, rest, rfl⟩ := List.exists_cons_of_ne_nil hne
  obtain ⟨hspace, hslash⟩ := hopens c rfl
  rw [Block.withoutStar, htext, hstrip]
  have hblank : isSpace ' ' = true := rfl
  simp [dropOne, hblank, hspace, hslash]

theorem Line.withoutStar (line : Line) :
    Block.withoutStar (" * ".toList ++ line.chars) = line.chars := by
  have hstarred := withoutStar_starred line.chars [] (by simp) line.ne_nil
    (fun c hc => ⟨(line.opens c hc).1, (line.opens c hc).2.2.2⟩) line.closes
  rwa [List.append_nil] at hstarred

theorem isSpace_of_isWord {c : Char} (h : isWord c = true) : isSpace c = false := by
  have hbetween : ∀ first last : Char, 48 ≤ first.toNat → last.toNat ≤ 122 →
      first.val ≤ c.val ∧ c.val ≤ last.val → 48 ≤ c.toNat ∧ c.toNat ≤ 122 :=
    fun first last hfirst hlast hc => ⟨hfirst.trans hc.1, hc.2.trans hlast⟩
  have hrange : 48 ≤ c.toNat ∧ c.toNat ≤ 122 := by
    rcases Bool.or_eq_true_iff.mp h with halnum | hline
    · rcases Bool.or_eq_true_iff.mp halnum with halpha | hdigit
      · rcases Bool.or_eq_true_iff.mp halpha with hupper | hlower
        · exact hbetween 'A' 'Z' (by decide) (by decide) (of_decide_eq_true hupper)
        · have hlower := Bool.and_eq_true_iff.mp hlower
          exact hbetween 'a' 'z' (by decide) (by decide)
            ⟨of_decide_eq_true hlower.1, of_decide_eq_true hlower.2⟩
      · exact hbetween '0' '9' (by decide) (by decide) (Char.isDigit_iff_toNat.mp hdigit)
    · rw [beq_iff_eq] at hline
      rw [hline]
      decide
  simp only [isSpace, Bool.or_eq_false_iff, Bool.and_eq_false_iff, decide_eq_false_iff_not,
    beq_eq_false_iff_ne, Nat.not_le]
  omega

theorem tagged_withoutStar (tag : String) (type : TypeText) (rest trail : List Char)
    (htag : tag.toList.head? = some '@') (htrail : ∀ c ∈ trail, isSpace c = true)
    (hcloses : ∀ c ∈ rest.getLast?, isSpace c = false) :
    Block.withoutStar (" * ".toList ++ (tagged tag type rest ++ trail)) = tagged tag type rest := by
  have hfirst : (tagged tag type rest).head? = some '@' := by
    rw [tagged, List.head?_append, htag, Option.some_or]
  refine withoutStar_starred _ trail htrail ?_ ?_ ?_
  · exact fun hnil => by simp [hnil] at hfirst
  · intro c hc
    rw [hfirst, Option.mem_some_iff] at hc
    rw [← hc]
    decide
  · intro c hc
    have hlast : (tagged tag type rest).getLast? = ('\x7d' :: rest).getLast? := by
      rw [tagged, List.getLast?_append_cons, List.getLast?_cons_cons, ← List.cons_append,
        List.getLast?_append_cons]
    cases rest with
    | nil =>
        rw [hlast] at hc
        obtain rfl : '\x7d' = c := by simpa using hc
        decide
    | cons d rest =>
        rw [hlast, List.getLast?_cons_cons] at hc
        exact hcloses c hc

theorem Line.getLast?_cons (line : Line) (c : Char) :
    (c :: line.chars).getLast? = line.chars.getLast? :=
  List.getLast?_cons_of_ne_nil line.ne_nil

theorem ParamTag.closes (t : ParamTag) :
    ∀ c ∈ (' ' :: (t.name ++ t.prose.dashed)).getLast?, isSpace c = false := by
  intro c hc
  rw [List.getLast?_cons_of_ne_nil (by simp [t.name_ne_nil])] at hc
  unfold Prose.dashed at hc
  cases hfirst : t.prose.first with
  | none =>
      simp only [hfirst, Option.map_none, Option.getD_none, List.append_nil] at hc
      exact isSpace_of_isWord (t.name_word c (List.mem_of_getLast? hc))
  | some line =>
      simp only [hfirst, Option.map_some, Option.getD_some, List.getLast?_append_cons,
        List.getLast?_cons_cons, line.getLast?_cons] at hc
      exact line.closes c hc

theorem ParamTag.withoutStar (t : ParamTag) :
    Block.withoutStar (" * ".toList ++ t.line) = t.line := by
  have hstarred := tagged_withoutStar "@param" t.type _ [] rfl (by simp) t.closes
  rwa [List.append_nil] at hstarred

/-- The line of a result's tag as it is read, without a space at its end. -/
def ReturnsTag.heard (t : ReturnsTag) : List Char :=
  tagged "@returns" t.type ((t.prose.first.map fun line => ' ' :: line.chars).getD [])

theorem ReturnsTag.withoutStar (t : ReturnsTag) :
    Block.withoutStar (" * ".toList ++ t.line) = t.heard := by
  unfold ReturnsTag.line ReturnsTag.heard Prose.opening
  cases t.prose.first with
  | none =>
      have hstarred := tagged_withoutStar "@returns" t.type [] [' '] rfl (by simp [isSpace])
        (by simp)
      simpa [tagged] using hstarred
  | some line =>
      have hstarred := tagged_withoutStar "@returns" t.type (' ' :: line.chars) [] rfl (by simp)
        (by rw [line.getLast?_cons]; exact line.closes)
      rwa [List.append_nil] at hstarred

/-! ## Lines that are read -/

theorem map_withoutStar_charsOf (lines : List Line) :
    (charsOf lines).map (fun line => Block.withoutStar (" * ".toList ++ line)) = charsOf lines := by
  simp only [charsOf, List.map_map, Function.comp_def, Line.withoutStar]

theorem Doc.map_withoutStar (d : Doc) :
    (d.lines ReturnsTag.line).map (fun line => Block.withoutStar (" * ".toList ++ line)) =
      d.lines ReturnsTag.heard := by
  cases hreturns : d.returns with
  | none =>
      simp only [Doc.lines, List.map_append, List.map_flatMap, List.map_cons,
        map_withoutStar_charsOf, ParamTag.withoutStar, hreturns, Option.map_none, Option.getD_none,
        List.map_nil]
  | some t =>
      simp only [Doc.lines, List.map_append, List.map_flatMap, List.map_cons,
        map_withoutStar_charsOf, ParamTag.withoutStar, ReturnsTag.withoutStar, hreturns,
        Option.map_some, Option.getD_some]

/-- What holds of every kind of line holds of all lines of documentation. -/
theorem Doc.forall_mem_lines (P : List Char → Prop) {result : ReturnsTag → List Char}
    (htext : ∀ line : Line, P line.chars) (hparam : ∀ t : ParamTag, P t.line)
    (hresult : ∀ t, P (result t)) (d : Doc) : ∀ line ∈ d.lines result, P line := by
  have hmore : ∀ lines, ∀ chars ∈ charsOf lines, P chars := fun lines =>
    List.forall_mem_map.mpr fun line _ => htext line
  simp only [Doc.lines, List.forall_mem_append, List.forall_mem_flatMap, List.forall_mem_cons]
  refine ⟨⟨hmore _, fun t _ => ⟨hparam t, hmore _⟩⟩, ?_⟩
  cases d.returns with
  | none => simp
  | some t => exact List.forall_mem_cons.mpr ⟨hresult t, hmore _⟩

theorem Line.not_mem (line : Line) : '\n' ∉ line.chars := fun hmem => by
  have hbreak := line.unbroken '\n' hmem
  simp [isLineBreak] at hbreak

theorem not_mem_tagged {tag : String} (htag : '\n' ∉ tag.toList) (type : TypeText)
    {rest : List Char} (hrest : '\n' ∉ rest) : '\n' ∉ tagged tag type rest := by
  have htype : '\n' ∉ type.chars := fun hmem => by
    have hbreak := (type.inner '\n' hmem).2
    simp [isLineBreak] at hbreak
  simp [tagged, htag, htype, hrest]

theorem ParamTag.not_mem (t : ParamTag) : '\n' ∉ t.line := by
  have hname : '\n' ∉ t.name := fun hmem => by
    have hspace := isSpace_of_isWord (t.name_word '\n' hmem)
    simp [isSpace] at hspace
  refine not_mem_tagged (by decide) t.type ?_
  unfold Prose.dashed
  cases t.prose.first with
  | none => simp [hname]
  | some line => simp [hname, line.not_mem]

theorem ReturnsTag.not_mem (t : ReturnsTag) : '\n' ∉ t.line := by
  refine not_mem_tagged (by decide) t.type ?_
  unfold Prose.opening
  cases t.prose.first with
  | none => simp
  | some line => simp [line.not_mem]

theorem tagged_ne_nil (tag : String) (type : TypeText) (rest : List Char) :
    tagged tag type rest ≠ [] := by
  simp [tagged]

theorem Doc.toList_written (d : Doc) :
    d.written.toList =
      ['\n'].intercalate (['*'] :: (d.lines ReturnsTag.line).map (" * ".toList ++ ·)) := by
  simp [Doc.written, String.toList_intercalate, Function.comp_def]

/-- The lines of a written comment are read one by one, the first of which says nothing. -/
theorem Doc.lines_written (d : Doc) : Block.lines d.written = d.lines ReturnsTag.heard := by
  have hunbroken : ∀ line ∈ ['*'] :: (d.lines ReturnsTag.line).map (" * ".toList ++ ·),
      '\n' ∉ line := by
    rw [List.forall_mem_cons, List.forall_mem_map]
    refine ⟨by decide, fun line hline => ?_⟩
    rw [List.mem_append, not_or]
    refine ⟨by decide, ?_⟩
    exact Doc.forall_mem_lines ('\n' ∉ ·) Line.not_mem ParamTag.not_mem ReturnsTag.not_mem d line
      hline
  have hsaid : ∀ line ∈ d.lines ReturnsTag.heard, line ≠ [] :=
    Doc.forall_mem_lines (· ≠ []) Line.ne_nil (fun t => tagged_ne_nil _ _ _)
      (fun t => tagged_ne_nil _ _ _) d
  have hstar : Block.withoutStar ['*'] = [] := rfl
  rw [Block.lines, d.toList_written, splitAtChar_eq_splitOn,
    List.splitOn_intercalate '\n' hunbroken (List.cons_ne_nil _ _), List.map_cons, hstar,
    List.map_map, Function.comp_def, d.map_withoutStar, List.filter_cons_of_neg (by simp)]
  exact List.filter_eq_self.mpr fun line hline => by simpa using hsaid line hline

/-! ## Tags that are read -/

theorem behind?_append (mark rest : List Char) : behind? mark (mark ++ rest) = some rest := by
  induction mark with
  | nil => rfl
  | cons m mark ih => simp [behind?, ih]

theorem behind?_of_head {m : Char} {mark cs : List Char} (h : ∀ c ∈ cs.head?, c ≠ m) :
    behind? (m :: mark) cs = none := by
  cases cs with
  | nil => rfl
  | cons c cs => simp [behind?, Ne.symm (h c rfl)]

/-- One space before what is none. -/
theorem behindSpaces?_space {cs : List Char} (h : ∀ c ∈ cs.head?, isSpace c = false) :
    behindSpaces? (' ' :: cs) = some cs := by
  have hspace : isSpace ' ' = true := rfl
  have hdrop := dropWhile_append_of_head [] cs (by simp) h
  rw [List.nil_append] at hdrop
  simp only [behindSpaces?, hspace, if_true, hdrop]

theorem braced?_type (type : TypeText) (rest : List Char) :
    Block.braced? ('\x7b' :: (type.chars ++ '\x7d' :: rest)) = some (type.chars, rest) := by
  have hinner : ∀ c ∈ type.chars, (c != '\x7d') = true := fun c hc => by
    simpa using (type.inner c hc).1
  have hdrop : (type.chars ++ '\x7d' :: rest).dropWhile (· != '\x7d') = '\x7d' :: rest := by
    rw [List.dropWhile_append_of_pos hinner]
    simp
  have htake : (type.chars ++ '\x7d' :: rest).takeWhile (· != '\x7d') = type.chars := by
    rw [List.takeWhile_append_of_pos hinner]
    simp
  simp [Block.braced?, behind?, hdrop, htake]

theorem restOfLine_line (line : Line) : restOfLine line.chars = line.chars := by
  refine List.takeWhile_eq_self_iff.mpr fun c hc => ?_
  simp [line.unbroken c hc]

theorem Line.head_not_space (line : Line) : ∀ c ∈ line.chars.head?, isSpace c = false :=
  fun c hc => (line.opens c hc).1

theorem name?_append {name rest : List Char} (hne : name ≠ []) (hname : ∀ c ∈ name, isWord c = true)
    (hrest : ∀ c ∈ rest.head?, isWord c = false) : name? (name ++ rest) = some (name, rest) := by
  have htake : rest.takeWhile isWord = [] := by
    cases rest with
    | nil => rfl
    | cons c rest => simp [hrest c rfl]
  have hdrop : rest.dropWhile isWord = rest := by
    cases rest with
    | nil => rfl
    | cons c rest => simp [hrest c rfl]
  rw [name?, List.takeWhile_append_of_pos hname, List.dropWhile_append_of_pos hname, htake, hdrop,
    List.append_nil]
  simp [hne]

theorem dashed?_dashed (p : Prose) : (Block.dashed? p.dashed).getD [] = p.opening := by
  unfold Prose.dashed Prose.opening
  cases p.first with
  | none => rfl
  | some line =>
      have hdash : behindSpaces? (' ' :: '-' :: ' ' :: line.chars) =
          some ('-' :: ' ' :: line.chars) := behindSpaces?_space (by simp [isSpace])
      have hrest := behindSpaces?_space line.head_not_space
      simp [Block.dashed?, hdash, behind?, hrest, restOfLine_line]

/-- The parameter of a tag's line alone. -/
def ParamTag.begun (t : ParamTag) : Param :=
  ⟨String.ofList t.name, some (String.ofList t.type.chars), String.ofList t.prose.opening,
    decide ('=' ∉ t.type.chars)⟩

theorem param?_line (t : ParamTag) : Block.param? t.line = some t.begun := by
  have htag : behind? "@param".toList t.line =
      some (' ' :: '\x7b' :: (t.type.chars ++ '\x7d' :: ' ' :: (t.name ++ t.prose.dashed))) :=
    behind?_append _ _
  have hbrace : behindSpaces? (' ' :: '\x7b' ::
      (t.type.chars ++ '\x7d' :: ' ' :: (t.name ++ t.prose.dashed))) =
        some ('\x7b' :: (t.type.chars ++ '\x7d' :: ' ' :: (t.name ++ t.prose.dashed))) :=
    behindSpaces?_space (by simp [isSpace])
  have hname : behindSpaces? (' ' :: (t.name ++ t.prose.dashed)) =
      some (t.name ++ t.prose.dashed) := by
    refine behindSpaces?_space fun c hc => ?_
    rw [List.head?_append_of_ne_nil t.name t.name_ne_nil] at hc
    exact isSpace_of_isWord (t.name_word c (List.mem_of_head? hc))
  have hword : name? (t.name ++ t.prose.dashed) = some (t.name, t.prose.dashed) := by
    refine name?_append t.name_ne_nil t.name_word ?_
    unfold Prose.dashed
    cases t.prose.first <;> simp [isWord]
  simp only [Block.param?, htag, hbrace, braced?_type, hname, hword, dashed?_dashed, ParamTag.begun,
    Option.bind_eq_bind, Option.bind_some, Option.pure_def, List.contains_eq_mem, decide_not]

/-- The result of a tag's line alone. -/
def ReturnsTag.begun (t : ReturnsTag) : Returns :=
  ⟨String.ofList t.type.chars, String.ofList t.prose.opening⟩

theorem returns?_heard (t : ReturnsTag) : Block.returns? t.heard = some t.begun := by
  obtain ⟨rest, hrest⟩ : ∃ rest, (t.prose.first.map fun line => ' ' :: line.chars).getD [] = rest :=
    ⟨_, rfl⟩
  have htag : behind? "@return".toList t.heard =
      some ('s' :: ' ' :: '\x7b' :: (t.type.chars ++ '\x7d' :: rest)) := by
    rw [ReturnsTag.heard, hrest]
    exact behind?_append "@return".toList _
  have hspaces : (' ' :: '\x7b' :: (t.type.chars ++ '\x7d' :: rest)).dropWhile isSpace =
      '\x7b' :: (t.type.chars ++ '\x7d' :: rest) :=
    dropWhile_append_of_head [' '] _ (by simp [isSpace]) (by simp [isSpace])
  have hopening : restOfLine (rest.dropWhile isSpace) = t.prose.opening := by
    rw [← hrest]
    unfold Prose.opening
    cases t.prose.first with
    | none => rfl
    | some line =>
        have hdrop : (' ' :: line.chars).dropWhile isSpace = line.chars :=
          dropWhile_append_of_head [' '] _ (by simp [isSpace]) line.head_not_space
        simp only [Option.map_some, Option.getD_some, hdrop, restOfLine_line]
  simp only [Block.returns?, htag, Option.bind_eq_bind, Option.bind_some, dropOne, BEq.rfl, if_true,
    hspaces, braced?_type, Option.getD_some, hopening, Option.pure_def, ReturnsTag.begun]

/-! ## One line after the other -/

theorem firstMatch_of_some {α : Type} {reader : List Char → Option α} {cs : List Char} {found : α}
    (h : reader cs = some found) : firstMatch reader cs = some found := by
  cases cs with
  | nil => exact h
  | cons c cs => simp [firstMatch, h]

/-- A line of text goes on with the topic. -/
theorem take_line (topic : Topic) (block : Block) (line : Line) :
    Block.take (topic, block) line.chars =
      (topic, Block.continue' topic block (String.ofList line.chars)) := by
  have hother : ∀ c ∈ line.chars.head?, c ≠ '@' := fun c hc => (line.opens c hc).2.1
  have hparam : behind? "@param".toList line.chars = none := behind?_of_head hother
  have hreturns : behind? "@return".toList line.chars = none := behind?_of_head hother
  have hhead : line.chars.head? ≠ some '@' := fun hat => hother '@' hat rfl
  simp only [Block.take, hparam, hreturns, Option.isSome_none, Bool.false_eq_true, if_false, hhead]

theorem take_param (state : Topic × Block) (t : ParamTag) :
    Block.take state t.line =
      (.param, { state.2 with params := state.2.params ++ [t.begun] }) := by
  have htag : (behind? "@param".toList t.line).isSome = true := by
    rw [ParamTag.line, tagged, behind?_append]
    rfl
  simp only [Block.take, htag, if_true, firstMatch_of_some (param?_line t), Option.toList_some]

theorem take_returns (state : Topic × Block) (t : ReturnsTag) :
    Block.take state t.heard = (.returns, { state.2 with returns := some t.begun }) := by
  have hparam : behind? "@param".toList t.heard = none := rfl
  have htag : (behind? "@return".toList t.heard).isSome = true := rfl
  simp only [Block.take, hparam, Option.isSome_none, Bool.false_eq_true, if_false, htag, if_true,
    returns?_heard, Option.some_or]

/-- A text that goes on in further lines. -/
def continued (text : String) (lines : List Line) : String :=
  lines.foldl (fun text line => text ++ "\n" ++ String.ofList line.chars) text

theorem continued_eq_joined (opening : List Char) (lines : List Line) :
    continued (String.ofList opening) lines = joined (opening :: charsOf lines) := by
  suffices hjoin : ∀ text : String, continued text lines =
      "\n".intercalate (text :: (charsOf lines).map String.ofList) by
    exact hjoin _
  induction lines with
  | nil =>
      intro text
      exact String.intercalate_singleton.symm
  | cons line lines ih =>
      intro text
      rw [continued, List.foldl_cons, ← continued, ih, charsOf_cons, List.map_cons,
        String.intercalate_cons_cons, String.intercalate_cons_append]

/-- The description takes the lines up to the first tag. -/
theorem foldl_description (block : Block) (h : block.description ≠ "") (lines : List Line) :
    (charsOf lines).foldl Block.take (.description, block) =
      (.description, { block with description := continued block.description lines }) := by
  induction lines generalizing block with
  | nil => rfl
  | cons line lines ih =>
      have hempty : block.description.isEmpty = false := by simpa using h
      rw [charsOf_cons, List.foldl_cons, take_line, ih]
      · simp only [Block.continue', hempty, Bool.false_eq_true, if_false, continued,
          List.foldl_cons]
      · simp [Block.continue', h]

theorem foldl_description_empty (lines : List Line) :
    (charsOf lines).foldl Block.take (.description, {}) =
      (.description, { description := joined (charsOf lines) }) := by
  cases lines with
  | nil => rfl
  | cons line lines =>
      have hfirst : Block.continue' .description {} (String.ofList line.chars) =
          { description := String.ofList line.chars } := by
        simp [Block.continue']
      have hne : String.ofList line.chars ≠ "" := by
        simpa using line.ne_nil
      rw [charsOf_cons, List.foldl_cons, take_line, hfirst, foldl_description _ hne,
        continued_eq_joined]

theorem continueParam_append (line : String) (params : List Param) (p : Param) :
    Block.continueParam line (params ++ [p]) =
      params ++ [{ p with description := p.description ++ "\n" ++ line }] := by
  induction params with
  | nil => rfl
  | cons q params ih =>
      obtain ⟨r, rest, hrest⟩ := List.exists_cons_of_ne_nil
        (List.append_ne_nil_of_right_ne_nil params (List.cons_ne_nil p []))
      rw [List.cons_append, hrest, Block.continueParam, ← hrest, ih, List.cons_append]
      simp

/-- The last parameter takes the lines behind its tag. -/
theorem foldl_param (block : Block) (params : List Param) (p : Param) (lines : List Line) :
    (charsOf lines).foldl Block.take (.param, { block with params := params ++ [p] }) =
      (.param, { block with
        params := params ++ [{ p with description := continued p.description lines }] }) := by
  induction lines generalizing p with
  | nil => rfl
  | cons line lines ih =>
      rw [charsOf_cons, List.foldl_cons, take_line]
      simp only [Block.continue', continueParam_append]
      exact ih _

/-- The result takes the lines behind its tag. -/
theorem foldl_returns (block : Block) (r : Returns) (lines : List Line) :
    (charsOf lines).foldl Block.take (.returns, { block with returns := some r }) =
      (.returns, { block with
        returns := some { r with description := continued r.description lines } }) := by
  induction lines generalizing r with
  | nil => rfl
  | cons line lines ih =>
      rw [charsOf_cons, List.foldl_cons, take_line]
      exact ih _

theorem foldl_params (tags : List ParamTag) (state : Topic × Block) :
    ((tags.flatMap fun t => t.line :: charsOf t.prose.more).foldl Block.take state).2 =
      { state.2 with params := state.2.params ++ tags.map ParamTag.param } := by
  induction tags generalizing state with
  | nil => simp
  | cons t tags ih =>
      have hparam : { t.begun with description := continued t.begun.description t.prose.more } =
          t.param := by
        rw [ParamTag.begun, continued_eq_joined]
        rfl
      rw [List.flatMap_cons, List.foldl_append, ih, List.foldl_cons, take_param, foldl_param,
        hparam]
      simp

theorem foldl_result (t : ReturnsTag) (state : Topic × Block) :
    ((t.heard :: charsOf t.prose.more).foldl Block.take state).2 =
      { state.2 with returns := some t.returns } := by
  rw [List.foldl_cons, take_returns, foldl_returns, ReturnsTag.begun, continued_eq_joined]
  rfl

/-- What is read from written documentation is what it says: the description, every parameter in
its place with its type, its description and whether it is required, and the result. -/
theorem parse_written (d : Doc) : Block.parse d.written = d.block := by
  have hparams := foldl_params d.params
    (.description, { description := joined (charsOf d.description) })
  rw [Block.parse, d.lines_written, Doc.lines, List.foldl_append, List.foldl_append,
    foldl_description_empty]
  cases hreturns : d.returns with
  | none => simp [hparams, Doc.block, hreturns]
  | some t =>
      rw [Option.map_some, Option.getD_some, foldl_result, hparams]
      simp [Doc.block, hreturns]

/-! ### A written comment -/

theorem forall_eq_false_of_all {p : Char → Bool} {cs : List Char} (h : cs.all (!p ·) = true) :
    ∀ c ∈ cs, p c = false := by
  simpa using h

/-- A line with a space in it. -/
def adding : Line where
  chars := "adds up".toList
  ne_nil := by decide
  unbroken := forall_eq_false_of_all (by decide)
  opens := by simp [isSpace]
  closes := by simp [isSpace]

/-- A line that looks like the dash of a tag. -/
def dashing : Line where
  chars := "- at most".toList
  ne_nil := by decide
  unbroken := forall_eq_false_of_all (by decide)
  opens := by simp [isSpace]
  closes := by simp [isSpace]

/-- Documentation with empty parts: of one parameter nothing stands behind the tag, and its type is
empty. -/
def sparseDoc : Doc where
  description := [adding, dashing]
  params := [
    { type := ⟨"number=".toList, by simp [isLineBreak]⟩, name := ['n']
      prose := ⟨some adding, [dashing]⟩, name_ne_nil := by decide
      name_word := by simp [isWord] },
    { type := ⟨[], by simp⟩, name := ['_'], prose := ⟨none, [adding]⟩, name_ne_nil := by decide
      name_word := by simp [isWord] }]
  returns := some
    { type := ⟨"a \x7b b".toList, by simp [isLineBreak]⟩, prose := ⟨none, []⟩
      type_ne_nil := by decide }

/-- The documentation as it is written. -/
def sparseComment : String :=
  "*\n * adds up\n * - at most\n * @param \x7bnumber=\x7d n - adds up\n * - at most\n" ++
    " * @param \x7b\x7d _\n * adds up\n * @returns \x7ba \x7b b\x7d "

theorem sparse_comment_read_back :
    Block.parse sparseComment =
      ⟨"adds up\n- at most", [⟨"n", some "number=", "adds up\n- at most", false⟩,
        ⟨"_", some "", "\nadds up", true⟩], some ⟨"a \x7b b", ""⟩⟩ := by
  have hwritten : sparseDoc.written = sparseComment := by decide +kernel
  rw [← hwritten, parse_written]
  decide +kernel

end Scriptorium.Comment
