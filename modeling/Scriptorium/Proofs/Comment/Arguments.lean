import Mathlib.Data.List.Infix
import Scriptorium.Comment.Docstring
import Scriptorium.Proofs.Comment.Written
set_option autoImplicit false

/-!
# Arguments of docstrings

`Sections.written` writes a docstring of a summary, a section of arguments and a section of results.
The heads of both sections stand at one indentation and the entries behind a deeper one.  A section
ends before a head only if the head starts its line, and only if there is a line between the two
heads.  So exactly the arguments are read as parameters if and only if the heads are not indented
and there is an argument (`parameters_are_arguments_iff`); otherwise the head of the results is read
as a parameter too, and so is every result that begins with a name.
-/

namespace Scriptorium.Comment.Docstring

/-! ## Docstrings in sections -/

/-- Spaces within a line. -/
def IsBlank (cs : List Char) : Prop := ∀ c ∈ cs, isSpace c = true ∧ c ≠ '\n'

/-- The head of the arguments. -/
def argsHead : List Char := "Args:".toList

/-- The head of the results. -/
def returnsHead : List Char := "Returns:".toList

/-- An entry of one line, which is indented deeper than the head of its section. -/
structure Entry where
  deeper : List Char
  chars : List Char
  deeper_ne_nil : deeper ≠ []
  deeper_blank : IsBlank deeper
  unbroken : '\n' ∉ chars

/-- The entry of an argument: a name, a colon and a text. -/
structure Argument extends Entry where
  name : List Char
  text : List Char
  chars_eq : chars = name ++ ':' :: text
  name_ne_nil : name ≠ []
  name_word : ∀ c ∈ name, isWord c = true

/-- A docstring in sections.  Blank lines may stand before the sections and at the end; the head of
the arguments occurs nowhere in the summary and in the results. -/
structure Sections where
  summary : List Char
  lead : List (List Char)
  indent : List Char
  arguments : List Argument
  gap : List (List Char)
  results : List Entry
  close : List (List Char)
  summary_unbroken : '\n' ∉ summary
  summary_headless : ¬argsHead <:+: summary
  lead_blank : ∀ line ∈ lead, IsBlank line
  indent_blank : IsBlank indent
  gap_blank : ∀ line ∈ gap, IsBlank line
  results_headless : ∀ result ∈ results, ¬argsHead <:+: result.chars
  close_blank : ∀ line ∈ close, IsBlank line

/-- The line of an entry below a head that is indented by `indent`. -/
def Entry.line (indent : List Char) (e : Entry) : List Char := indent ++ (e.deeper ++ e.chars)

namespace Sections

/-- The lines behind the head of the results. -/
def behindReturns (d : Sections) : List (List Char) := d.results.map (·.line d.indent) ++ d.close

/-- The lines behind the last argument. -/
def behindArguments (d : Sections) : List (List Char) :=
  d.gap ++ (d.indent ++ returnsHead) :: d.behindReturns

/-- The lines behind the summary. -/
def behindSummary (d : Sections) : List (List Char) :=
  d.lead ++ (d.indent ++ argsHead) ::
    (d.arguments.map (·.line d.indent) ++ d.behindArguments)

/-- A docstring as it is written. -/
def written (d : Sections) : String := joined (d.summary :: d.behindSummary)

/-- The names of the arguments. -/
def argumentNames (d : Sections) : List String := d.arguments.map fun a => String.ofList a.name

end Sections

/-- The name at the start of a line. -/
def lineName? (line : List Char) : Option String :=
  (name? (line.dropWhile isSpace)).map fun found => String.ofList found.1

/-- The names of the parameters of a docstring. -/
def parameterNames (docstring : String) : Option (List String) :=
  (parse docstring).params.map fun params => params.map Param.name

/-! ## Lines with line feeds before them -/

/-- Lines with a line feed before each. -/
def feeds (lines : List (List Char)) : List Char := lines.flatMap ('\n' :: ·)

theorem feeds_cons (line : List Char) (lines : List (List Char)) :
    feeds (line :: lines) = '\n' :: (line ++ feeds lines) := rfl

theorem feeds_append (lines more : List (List Char)) :
    feeds (lines ++ more) = feeds lines ++ feeds more := List.flatMap_append

theorem intercalate_eq_feeds (line : List Char) (lines : List (List Char)) :
    ['\n'].intercalate (line :: lines) = line ++ feeds lines := by
  induction lines generalizing line with
  | nil => simp [feeds]
  | cons next lines ih => rw [List.intercalate_cons_cons, ih, feeds_cons]; simp

theorem toList_joined (line : List Char) (lines : List (List Char)) :
    (joined (line :: lines)).toList = line ++ feeds lines := by
  rw [← intercalate_eq_feeds]
  simp [joined, String.toList_intercalate, Function.comp_def]

theorem splitAtChar_feeds {line : List Char} {lines : List (List Char)}
    (h : ∀ l ∈ line :: lines, '\n' ∉ l) :
    Text.splitAtChar '\n' (line ++ feeds lines) = line :: lines := by
  rw [← intercalate_eq_feeds, splitAtChar_eq_splitOn,
    List.splitOn_intercalate '\n' h (List.cons_ne_nil _ _)]

/-- Either nothing is left, or a new line starts. -/
def StartsLine (cs : List Char) : Prop := ∀ c ∈ cs.head?, c = '\n'

theorem startsLine_nil : StartsLine [] := by
  simp [StartsLine]

theorem startsLine_feeds (lines : List (List Char)) : StartsLine (feeds lines) := by
  cases lines with
  | nil => exact startsLine_nil
  | cons line lines => simp [StartsLine, feeds_cons]

theorem takeWhile_append_of_head {p : Char → Bool} {lead rest : List Char}
    (hlead : ∀ c ∈ lead, p c = true) (hrest : ∀ c ∈ rest.head?, p c = false) :
    (lead ++ rest).takeWhile p = lead := by
  have hstop : rest.takeWhile p = [] := by
    cases rest with
    | nil => rfl
    | cons c rest => exact List.takeWhile_cons_of_neg (by simp [hrest c rfl])
  rw [List.takeWhile_append_of_pos hlead, hstop, List.append_nil]

/-! ## Lines within a section -/

/-- A line without a line feed that is empty or starts with a space. -/
def IsInner (line : List Char) : Prop := '\n' ∉ line ∧ ∀ c ∈ line.head?, isSpace c = true

theorem IsBlank.isSpace {cs : List Char} (h : IsBlank cs) : ∀ c ∈ cs, isSpace c = true :=
  fun c hc => (h c hc).1

theorem IsBlank.not_mem {cs : List Char} (h : IsBlank cs) : '\n' ∉ cs :=
  fun hmem => (h _ hmem).2 rfl

theorem IsBlank.append {cs ds : List Char} (hcs : IsBlank cs) (hds : IsBlank ds) :
    IsBlank (cs ++ ds) := List.forall_mem_append.mpr ⟨hcs, hds⟩

theorem IsBlank.isInner {cs : List Char} (h : IsBlank cs) : IsInner cs :=
  ⟨h.not_mem, fun c hc => h.isSpace c (List.mem_of_head? hc)⟩

/-- Spaces at the start of a line make it an inner one. -/
theorem isInner_append {cs ds : List Char} (hcs : IsBlank cs) (hne : cs ≠ []) (hds : '\n' ∉ ds) :
    IsInner (cs ++ ds) := by
  refine ⟨by simp [hcs.not_mem, hds], fun c hc => ?_⟩
  rw [List.head?_append_of_ne_nil cs hne] at hc
  exact hcs.isSpace c (List.mem_of_head? hc)

theorem Entry.isInner {indent : List Char} (hindent : IsBlank indent) (e : Entry) :
    IsInner (e.line indent) := by
  rw [Entry.line, ← List.append_assoc]
  exact isInner_append (hindent.append e.deeper_blank)
    (List.append_ne_nil_of_right_ne_nil indent e.deeper_ne_nil) e.unbroken

theorem forall_isInner_lines {indent : List Char} (hindent : IsBlank indent) {α : Type}
    (entry : α → Entry) (items : List α) :
    ∀ line ∈ items.map fun item => (entry item).line indent, IsInner line :=
  List.forall_mem_map.mpr fun item _ => (entry item).isInner hindent

/-- An inner line is no heading, whatever lines follow it. -/
theorem isHeading_inner {line rest : List Char} (hline : IsInner line) (hrest : StartsLine rest) :
    isHeading (line ++ rest) = false := by
  have hspace : ∀ c ∈ (line ++ rest).head?, isSpace c = true := by
    cases line with
    | nil =>
        intro c hc
        obtain rfl := hrest c hc
        decide
    | cons c line => exact hline.2
  have hword : (line ++ rest).takeWhile isWord = [] := by
    refine takeWhile_append_of_head (List.forall_mem_nil _) fun c hc => ?_
    by_contra hword
    have hspace := hspace c hc
    simp [isSpace_of_isWord (by simpa using hword)] at hspace
  simp [isHeading, name?, hword]

theorem upToHeading_nil : upToHeading [] = ([], []) := rfl

theorem upToHeading_cons (c : Char) (rest : List Char) :
    upToHeading (c :: rest) =
      if (decide (c = '\n') && isHeading rest) = true then ([], c :: rest)
      else (c :: (upToHeading rest).1, (upToHeading rest).2) := rfl

theorem upToHeading_append {cs : List Char} (hcs : '\n' ∉ cs) (rest : List Char) :
    upToHeading (cs ++ rest) = (cs ++ (upToHeading rest).1, (upToHeading rest).2) := by
  induction cs with
  | nil => rfl
  | cons c cs ih =>
      obtain ⟨hc, hcs⟩ := List.ne_and_not_mem_of_not_mem_cons hcs
      simp [upToHeading_cons, Ne.symm hc, ih hcs]

/-- A section goes on over inner lines, up to where it ends. -/
theorem upToHeading_feeds {lines : List (List Char)} {rest : List Char}
    (hlines : ∀ line ∈ lines, IsInner line) (hstart : StartsLine rest)
    (hrest : upToHeading rest = ([], rest)) :
    upToHeading (feeds lines ++ rest) = (feeds lines, rest) := by
  induction lines with
  | nil => exact hrest
  | cons line lines ih =>
      obtain ⟨hline, hlines⟩ := List.forall_mem_cons.mp hlines
      have hnext : StartsLine (feeds lines ++ rest) := by
        cases lines with
        | nil => exact hstart
        | cons next lines => simp [StartsLine, feeds_cons]
      have hheading := isHeading_inner hline hnext
      rw [feeds_cons, List.cons_append, List.append_assoc, upToHeading_cons, hheading,
        upToHeading_append hline.1, ih hlines]
      simp

/-- A section that begins in the middle of a line. -/
theorem upToHeading_lines {line : List Char} {lines : List (List Char)} {rest : List Char}
    (hline : '\n' ∉ line) (hlines : ∀ line ∈ lines, IsInner line) (hstart : StartsLine rest)
    (hrest : upToHeading rest = ([], rest)) :
    upToHeading (line ++ (feeds lines ++ rest)) = (line ++ feeds lines, rest) := by
  rw [upToHeading_append hline, upToHeading_feeds hlines hstart hrest]

/-! ## Finding the head of the arguments -/

/-- The search goes on where no head stands. -/
theorem argsFrom_of_behind? {c : Char} {cs : List Char} (h : behind? argsHead (c :: cs) = none) :
    argsFrom 0 (c :: cs) = argsFrom 0 cs := by
  have hnone : argsAt? (c :: cs) = none := by
    rw [argsAt?, ← argsHead, h]
    rfl
  rw [argsFrom, hnone]

theorem argsFrom_cons_of_ne {c : Char} (hc : c ≠ 'A') (cs : List Char) :
    argsFrom 0 (c :: cs) = argsFrom 0 cs :=
  argsFrom_of_behind? (behind?_of_head fun _ hd => (Option.some.inj hd) ▸ hc)

/-- No head stands among spaces. -/
theorem argsFrom_spaces {spaces : List Char} (h : ∀ c ∈ spaces, isSpace c = true) (cs : List Char) :
    argsFrom 0 (spaces ++ cs) = argsFrom 0 cs := by
  induction spaces with
  | nil => rfl
  | cons c spaces ih =>
      obtain ⟨hc, hspaces⟩ := List.forall_mem_cons.mp h
      have hother : c ≠ 'A' := by
        rintro rfl
        exact absurd hc (by decide)
      rw [List.cons_append, argsFrom_cons_of_ne hother, ih hspaces]

theorem prefix_of_behind? {mark cs rest : List Char} (h : behind? mark cs = some rest) :
    mark <+: cs := by
  induction mark generalizing cs with
  | nil => exact List.nil_prefix
  | cons m mark ih =>
      cases cs with
      | nil => cases h
      | cons c cs =>
          by_cases hc : m = c
          · rw [behind?, if_pos hc] at h
            exact List.cons_prefix_cons.mpr ⟨hc, ih h⟩
          · rw [behind?, if_neg hc] at h
            cases h

/-- A head that starts in a line stands in that line. -/
theorem prefix_line {line rest : List Char} (hrest : StartsLine rest)
    (h : argsHead <+: line ++ rest) : argsHead <+: line := by
  rcases List.prefix_or_prefix_of_prefix h (List.prefix_append line rest) with
    hline | ⟨excess, hexcess⟩
  · exact hline
  · obtain ⟨more, rfl⟩ : excess <+: rest := by rwa [← hexcess, List.prefix_append_right_inj] at h
    cases excess with
    | nil => rw [← hexcess, List.append_nil]
    | cons c excess =>
        have hfeed : c = '\n' := hrest c rfl
        have hmem : c ∈ argsHead := hexcess ▸ List.mem_append_right line List.mem_cons_self
        exact absurd (hfeed ▸ hmem) (by decide)

/-- No head stands in a line in which it does not occur. -/
theorem argsFrom_line {line rest : List Char} (hline : ¬argsHead <:+: line)
    (hrest : StartsLine rest) : argsFrom 0 (line ++ rest) = argsFrom 0 rest := by
  induction line with
  | nil => rfl
  | cons c line ih =>
      have hbehind : behind? argsHead (c :: (line ++ rest)) = none := by
        cases hfound : behind? argsHead (c :: (line ++ rest)) with
        | none => rfl
        | some found => exact absurd (prefix_line hrest (prefix_of_behind? hfound)).isInfix hline
      rw [List.cons_append, argsFrom_of_behind? hbehind]
      exact ih fun hinfix => hline (List.infix_cons hinfix)

/-- No head stands in lines whose texts behind the spaces do not hold it. -/
theorem argsFrom_feeds {lines : List (List Char)}
    (h : ∀ line ∈ lines, ∃ spaces chars, line = spaces ++ chars ∧ IsBlank spaces ∧
      ¬argsHead <:+: chars) : argsFrom 0 (feeds lines) = [] := by
  induction lines with
  | nil => rfl
  | cons line lines ih =>
      obtain ⟨⟨spaces, chars, rfl, hspaces, hchars⟩, hlines⟩ := List.forall_mem_cons.mp h
      rw [feeds_cons, argsFrom_cons_of_ne (by decide), List.append_assoc,
        argsFrom_spaces hspaces.isSpace, argsFrom_line hchars (startsLine_feeds lines), ih hlines]

theorem argsFrom_skip (before after : List Char) :
    argsFrom before.length (before ++ after) = argsFrom 0 after := by
  induction before with
  | nil => rfl
  | cons c before ih => exact ih

/-- At the head, the list of arguments is taken and the search goes on behind it. -/
theorem argsFrom_head {rest text after : List Char}
    (hat : argsAt? (argsHead ++ rest) = some (text, after)) (hafter : after <:+ rest) :
    argsFrom 0 (argsHead ++ rest) = text :: argsFrom 0 after := by
  obtain ⟨before, rfl⟩ := hafter
  have hhead : argsHead ++ (before ++ after) = 'A' :: (("rgs:".toList ++ before) ++ after) := by
    simp [argsHead]
  have hskip : (("rgs:".toList ++ before) ++ after).length - after.length =
      ("rgs:".toList ++ before).length := by
    rw [List.length_append, Nat.add_sub_cancel]
  rw [hhead] at hat ⊢
  rw [argsFrom, hat]
  dsimp only
  rw [hskip, argsFrom_skip]

theorem behindLastFeed?_append (before : List Char) {indent : List Char} (h : '\n' ∉ indent) :
    behindLastFeed? (before ++ '\n' :: indent) = some indent := by
  have hmem : (before ++ '\n' :: indent).contains '\n' = true := by simp
  have hindent : ∀ c ∈ indent.reverse, (c != '\n') = true := by
    intro c hc
    simp only [bne_iff_ne]
    rintro rfl
    exact h (List.mem_reverse.mp hc)
  rw [behindLastFeed?, if_pos hmem, List.reverse_append, List.reverse_cons, List.append_assoc,
    List.takeWhile_append_of_pos hindent]
  simp

/-- The list of arguments begins with the indentation of the first line that is not blank. -/
theorem argsAt?_head {blank : List (List Char)} {indent : List Char} (body rest : List Char)
    (hblank : ∀ line ∈ blank, IsBlank line) (hindent : IsBlank indent) (hne : body ≠ [])
    (hbody : ∀ c ∈ body.head?, isSpace c = false) :
    argsAt? (argsHead ++ (feeds blank ++ '\n' :: (indent ++ (body ++ rest)))) =
      some (upToHeading (indent ++ (body ++ rest))) := by
  have hspaces : ∀ c ∈ feeds blank ++ '\n' :: indent, isSpace c = true := by
    rw [List.forall_mem_append, List.forall_mem_cons, feeds, List.forall_mem_flatMap]
    exact ⟨fun line hline => List.forall_mem_cons.mpr ⟨by decide, (hblank line hline).isSpace⟩,
      by decide, hindent.isSpace⟩
  have hsplit : feeds blank ++ '\n' :: (indent ++ (body ++ rest)) =
      (feeds blank ++ '\n' :: indent) ++ (body ++ rest) := by
    simp
  have hstop : ∀ c ∈ (body ++ rest).head?, isSpace c = false := by
    rwa [List.head?_append_of_ne_nil body hne]
  have hdrop := dropWhile_append_of_head _ _ hspaces hstop
  have htake := takeWhile_append_of_head hspaces hstop
  rw [hsplit, argsAt?, ← argsHead, behind?_append]
  simp only [htake, hdrop, behindLastFeed?_append _ hindent.not_mem, Option.bind_eq_bind,
    Option.bind_some, Option.pure_def]

/-! ## Names -/

theorem name_param? (line : List Char) : (param? line).map Param.name = lineName? line := by
  unfold param? lineName?
  cases name? (line.dropWhile isSpace) <;> rfl

/-- The names of the parameters in lines. -/
theorem names_paramsOf {line : List Char} {lines : List (List Char)}
    (h : ∀ l ∈ line :: lines, '\n' ∉ l) :
    (paramsOf (line ++ feeds lines)).map Param.name = (line :: lines).filterMap lineName? := by
  rw [paramsOf, splitAtChar_feeds h, List.map_filterMap]
  exact List.filterMap_congr fun l _ => name_param? l

theorem lineName?_append {spaces : List Char} (h : ∀ c ∈ spaces, isSpace c = true)
    (cs : List Char) : lineName? (spaces ++ cs) = lineName? cs := by
  rw [lineName?, List.dropWhile_append_of_pos h, lineName?]

theorem lineName?_line {indent : List Char} (hindent : IsBlank indent) (e : Entry) :
    lineName? (e.line indent) = lineName? e.chars := by
  rw [Entry.line, lineName?_append hindent.isSpace, lineName?_append e.deeper_blank.isSpace]

theorem filterMap_lineName?_blank {lines : List (List Char)} (h : ∀ line ∈ lines, IsBlank line) :
    lines.filterMap lineName? = [] := by
  refine List.filterMap_eq_nil_iff.mpr fun line hline => ?_
  rw [← List.append_nil line, lineName?_append (h line hline).isSpace]
  rfl

theorem Argument.head_not_space (a : Argument) : ∀ c ∈ a.chars.head?, isSpace c = false := by
  intro c hc
  rw [a.chars_eq, List.head?_append_of_ne_nil a.name a.name_ne_nil] at hc
  exact isSpace_of_isWord (a.name_word c (List.mem_of_head? hc))

theorem Argument.chars_ne_nil (a : Argument) : a.chars ≠ [] := by
  simp [a.chars_eq]

theorem Argument.lineName? (a : Argument) :
    Docstring.lineName? a.chars = some (String.ofList a.name) := by
  have hdrop := dropWhile_append_of_head [] _ (by simp) a.head_not_space
  rw [List.nil_append] at hdrop
  rw [Docstring.lineName?, hdrop, a.chars_eq,
    name?_append a.name_ne_nil a.name_word (by simp [isWord])]
  rfl

theorem filterMap_lineName?_arguments {indent : List Char} (hindent : IsBlank indent)
    (arguments : List Argument) :
    (arguments.map (·.line indent)).filterMap lineName? =
      arguments.map fun a => String.ofList a.name := by
  rw [List.filterMap_map, ← List.filterMap_eq_map]
  refine List.filterMap_congr fun a _ => ?_
  exact (lineName?_line hindent a.toEntry).trans a.lineName?

/-! ## What is read -/

namespace Sections

variable (d : Sections)

/-- The results that begin with a name. -/
def resultNames : List String := d.results.filterMap fun result => lineName? result.chars

theorem isInner_behindReturns : ∀ line ∈ d.behindReturns, IsInner line := by
  rw [behindReturns, List.forall_mem_append]
  exact ⟨forall_isInner_lines d.indent_blank id d.results,
    fun line hline => (d.close_blank line hline).isInner⟩

theorem names_behindReturns : d.behindReturns.filterMap lineName? = d.resultNames := by
  rw [behindReturns, List.filterMap_append, filterMap_lineName?_blank d.close_blank,
    List.append_nil, List.filterMap_map]
  exact List.filterMap_congr fun result _ => lineName?_line d.indent_blank result

theorem lineName?_returnsHead : lineName? (d.indent ++ returnsHead) = some "Returns" := by
  rw [lineName?_append d.indent_blank.isSpace]
  decide

theorem feeds_behindArguments :
    feeds d.behindArguments =
      feeds d.gap ++ '\n' :: (d.indent ++ (returnsHead ++ feeds d.behindReturns)) := by
  simp [behindArguments, feeds_append, feeds_cons]

/-- The search for the head of the arguments comes to it. -/
theorem argsFrom_written :
    argsFrom 0 d.written.toList =
      argsFrom 0 (argsHead ++ feeds (d.arguments.map (·.line d.indent) ++ d.behindArguments)) := by
  have hspaces : ∀ c ∈ feeds d.lead ++ '\n' :: d.indent, isSpace c = true := by
    rw [List.forall_mem_append, List.forall_mem_cons, feeds, List.forall_mem_flatMap]
    exact ⟨fun line hline =>
      List.forall_mem_cons.mpr ⟨by decide, (d.lead_blank line hline).isSpace⟩,
      by decide, d.indent_blank.isSpace⟩
  have hsplit : feeds d.behindSummary = (feeds d.lead ++ '\n' :: d.indent) ++ (argsHead ++
      feeds (d.arguments.map (·.line d.indent) ++ d.behindArguments)) := by
    simp [behindSummary, feeds_append, feeds_cons]
  rw [written, toList_joined, argsFrom_line d.summary_headless (startsLine_feeds _), hsplit,
    argsFrom_spaces hspaces]

/-- No second list of arguments is found in the results. -/
theorem argsFrom_behindReturns : argsFrom 0 (feeds d.behindReturns) = [] := by
  refine argsFrom_feeds ?_
  rw [behindReturns, List.forall_mem_append, List.forall_mem_map]
  constructor
  · intro result hresult
    refine ⟨d.indent ++ result.deeper, result.chars, ?_, ?_, d.results_headless result hresult⟩
    · rw [Entry.line, List.append_assoc]
    · exact d.indent_blank.append result.deeper_blank
  · intro line hline
    exact ⟨line, [], (List.append_nil line).symm, d.close_blank line hline, by decide⟩

theorem argsFrom_returns : argsFrom 0 ('\n' :: (returnsHead ++ feeds d.behindReturns)) = [] := by
  rw [argsFrom_cons_of_ne (by decide), argsFrom_line (by decide) (startsLine_feeds _),
    argsFrom_behindReturns]

/-- The names in the lines of the one list of arguments that is found. -/
theorem parameterNames_of_found {line after : List Char} {lines : List (List Char)}
    (hfound : argsAt? (argsHead ++
        feeds (d.arguments.map (·.line d.indent) ++ d.behindArguments)) =
      some (line ++ feeds lines, after))
    (hafter : after <:+ feeds (d.arguments.map (·.line d.indent) ++ d.behindArguments))
    (hnone : argsFrom 0 after = []) (hlines : ∀ l ∈ line :: lines, '\n' ∉ l) :
    parameterNames d.written = some ((line :: lines).filterMap lineName?) := by
  rw [parameterNames, parse]
  dsimp only
  rw [d.argsFrom_written, argsFrom_head hfound hafter, hnone, List.getLast?_singleton,
    Option.map_some, Option.map_some, names_paramsOf hlines]

/-- The list of arguments that begins with an argument: it goes on over the inner lines `lines`, up
to where it ends. -/
theorem parameterNames_of_first {a : Argument} {rest : List Argument} {lines : List (List Char)}
    {after : List Char} (hargs : d.arguments = a :: rest)
    (hsplit : feeds (rest.map (·.line d.indent) ++ d.behindArguments) = feeds lines ++ after)
    (hlines : ∀ line ∈ lines, IsInner line) (hstart : StartsLine after)
    (hends : upToHeading after = ([], after)) (hnone : argsFrom 0 after = []) :
    parameterNames d.written = some ((a.line d.indent :: lines).filterMap lineName?) := by
  have hbelow : feeds (d.arguments.map (·.line d.indent) ++ d.behindArguments) =
      '\n' :: (a.line d.indent ++ (feeds lines ++ after)) := by
    rw [hargs, List.map_cons, List.cons_append, feeds_cons, hsplit]
  have hline : a.line d.indent ++ (feeds lines ++ after) =
      (d.indent ++ a.deeper) ++ (a.chars ++ (feeds lines ++ after)) := by
    simp [Entry.line]
  have hinner := a.isInner d.indent_blank
  have hfound := argsAt?_head a.chars (feeds lines ++ after) (List.forall_mem_nil _)
    (d.indent_blank.append a.deeper_blank) a.chars_ne_nil a.head_not_space
  rw [← hline, upToHeading_lines hinner.1 hlines hstart hends] at hfound
  refine d.parameterNames_of_found (hbelow ▸ hfound) ?_ hnone ?_
  · rw [hbelow, ← List.append_assoc, ← List.cons_append]
    exact List.suffix_append _ _
  · exact List.forall_mem_cons.mpr ⟨hinner.1, fun line hmem => (hlines line hmem).1⟩

/-- What is read if the heads are not indented and there is an argument: the arguments. -/
theorem parameterNames_flush (hindent : d.indent = []) (hsome : d.arguments ≠ []) :
    parameterNames d.written = some d.argumentNames := by
  obtain ⟨a, rest, hargs⟩ := List.exists_cons_of_ne_nil hsome
  have hhead : isHeading (returnsHead ++ feeds d.behindReturns) = true := rfl
  have hends : upToHeading ('\n' :: (returnsHead ++ feeds d.behindReturns)) =
      ([], '\n' :: (returnsHead ++ feeds d.behindReturns)) := by
    rw [upToHeading_cons, hhead]
    rfl
  have hsplit : feeds (rest.map (·.line d.indent) ++ d.behindArguments) =
      feeds (rest.map (·.line d.indent) ++ d.gap) ++
        '\n' :: (returnsHead ++ feeds d.behindReturns) := by
    rw [feeds_append, d.feeds_behindArguments, hindent, List.nil_append, feeds_append,
      List.append_assoc]
  have hlines : ∀ line ∈ rest.map (·.line d.indent) ++ d.gap, IsInner line := by
    rw [List.forall_mem_append]
    exact ⟨forall_isInner_lines d.indent_blank Argument.toEntry rest,
      fun line hline => (d.gap_blank line hline).isInner⟩
  have hnames := filterMap_lineName?_arguments d.indent_blank d.arguments
  rw [hargs, List.map_cons] at hnames
  rw [d.parameterNames_of_first hargs hsplit hlines (by simp [StartsLine]) hends d.argsFrom_returns,
    ← List.cons_append, List.filterMap_append, filterMap_lineName?_blank d.gap_blank,
    List.append_nil, hnames, argumentNames, hargs]

theorem names_behindArguments :
    d.behindArguments.filterMap lineName? = "Returns" :: d.resultNames := by
  rw [behindArguments, List.filterMap_append, filterMap_lineName?_blank d.gap_blank,
    List.nil_append, List.filterMap_cons_some d.lineName?_returnsHead, names_behindReturns]

/-- What is read if the heads are indented and there is an argument: everything. -/
theorem parameterNames_indented (hindent : d.indent ≠ []) (hsome : d.arguments ≠ []) :
    parameterNames d.written = some (d.argumentNames ++ "Returns" :: d.resultNames) := by
  obtain ⟨a, rest, hargs⟩ := List.exists_cons_of_ne_nil hsome
  have hlines : ∀ line ∈ rest.map (·.line d.indent) ++ d.behindArguments, IsInner line := by
    rw [List.forall_mem_append, behindArguments, List.forall_mem_append, List.forall_mem_cons]
    exact ⟨forall_isInner_lines d.indent_blank Argument.toEntry rest,
      fun line hline => (d.gap_blank line hline).isInner,
      isInner_append d.indent_blank hindent (by decide), d.isInner_behindReturns⟩
  have hnames := filterMap_lineName?_arguments d.indent_blank d.arguments
  rw [hargs, List.map_cons] at hnames
  rw [d.parameterNames_of_first hargs (List.append_nil _).symm hlines startsLine_nil
    upToHeading_nil rfl, ← List.cons_append, List.filterMap_append, hnames,
    names_behindArguments, argumentNames, hargs]

/-- What is read if there is no argument: the head of the results, and the results. -/
theorem parameterNames_nil (hnil : d.arguments = []) :
    parameterNames d.written = some ("Returns" :: d.resultNames) := by
  have hbelow : feeds (d.arguments.map (·.line d.indent) ++ d.behindArguments) =
      feeds d.gap ++ '\n' :: (d.indent ++ (returnsHead ++ feeds d.behindReturns)) := by
    rw [hnil, List.map_nil, List.nil_append, feeds_behindArguments]
  have hflat : '\n' ∉ d.indent ++ returnsHead := by
    rw [List.mem_append, not_or]
    exact ⟨d.indent_blank.not_mem, by decide⟩
  have hall : upToHeading (d.indent ++ (returnsHead ++ feeds d.behindReturns)) =
      (d.indent ++ (returnsHead ++ feeds d.behindReturns), []) := by
    have hlines := upToHeading_lines hflat d.isInner_behindReturns startsLine_nil upToHeading_nil
    rwa [List.append_nil, List.append_assoc] at hlines
  have hstart : ∀ c ∈ returnsHead.head?, isSpace c = false := by
    intro c hc
    obtain rfl : 'R' = c := Option.some.inj hc
    decide
  have hfound := argsAt?_head returnsHead (feeds d.behindReturns) d.gap_blank d.indent_blank
    (by decide) hstart
  rw [hall, ← hbelow, ← List.append_assoc] at hfound
  rw [d.parameterNames_of_found hfound List.nil_suffix rfl,
    List.filterMap_cons_some d.lineName?_returnsHead, names_behindReturns]
  exact List.forall_mem_cons.mpr ⟨hflat, fun line hline => (d.isInner_behindReturns line hline).1⟩

/-- What is read: the arguments, and then also the results with their head, unless the heads are not
indented and there is an argument. -/
theorem parameterNames_written :
    parameterNames d.written = some (d.argumentNames ++
      if d.indent = [] ∧ d.arguments ≠ [] then [] else "Returns" :: d.resultNames) := by
  by_cases hsome : d.arguments = []
  · simp [d.parameterNames_nil hsome, hsome, argumentNames]
  · by_cases hindent : d.indent = []
    · simp [d.parameterNames_flush hindent hsome, hindent, hsome]
    · simp [d.parameterNames_indented hindent hsome, hindent]

end Sections

/-- The parameters that are read from a docstring are named exactly as its arguments, in their
order, if and only if the heads of its sections are not indented and there is an argument. -/
theorem parameters_are_arguments_iff (d : Sections) :
    parameterNames d.written = some d.argumentNames ↔ d.indent = [] ∧ d.arguments ≠ [] := by
  rw [d.parameterNames_written, Option.some_inj]
  by_cases hflush : d.indent = [] ∧ d.arguments ≠ []
  · simp [hflush]
  · simp [hflush]

/-! ### An argument and a result -/

/-- The indentation of an entry. -/
def tab : List Char := "    ".toList

theorem isBlank_tab : IsBlank tab := by
  simp [tab, IsBlank, isSpace]

/-- A docstring with an argument and a result, whose heads are indented by `indent`. -/
def addition (indent : List Char) (h : IsBlank indent) : Sections where
  summary := "Adds up.".toList
  lead := [[]]
  indent := indent
  arguments :=
    [{ deeper := tab, chars := "x: the number".toList, name := ['x'], text := " the number".toList
       deeper_ne_nil := by decide, deeper_blank := isBlank_tab, unbroken := by decide
       chars_eq := rfl, name_ne_nil := by decide, name_word := by simp [isWord] }]
  gap := []
  results :=
    [{ deeper := tab, chars := "int: the sum".toList, deeper_ne_nil := by decide
       deeper_blank := isBlank_tab, unbroken := by decide }]
  close := []
  summary_unbroken := by decide
  summary_headless := by decide
  lead_blank := List.forall_mem_singleton.mpr (List.forall_mem_nil _)
  indent_blank := h
  gap_blank := List.forall_mem_nil _
  results_headless := List.forall_mem_singleton.mpr (by decide)
  close_blank := List.forall_mem_nil _

/-- With heads at the margin, the argument alone is read as a parameter. -/
theorem argument_alone_read_at_margin :
    parameterNames "Adds up.\n\nArgs:\n    x: the number\nReturns:\n    int: the sum" =
      some ["x"] := by
  have hwritten : (addition [] (List.forall_mem_nil _)).written =
      "Adds up.\n\nArgs:\n    x: the number\nReturns:\n    int: the sum" := by
    decide +kernel
  rw [← hwritten]
  exact (parameters_are_arguments_iff _).mpr ⟨rfl, List.cons_ne_nil _ _⟩

/-- With indented heads, the head of the results and the type of the result are read as
parameters. -/
theorem indented_returns_read_as_parameters :
    (addition tab isBlank_tab).written =
        "Adds up.\n\n    Args:\n        x: the number\n    Returns:\n        int: the sum" ∧
      parameterNames (addition tab isBlank_tab).written = some ["x", "Returns", "int"] ∧
      (addition tab isBlank_tab).argumentNames = ["x"] := by
  decide +kernel

end Scriptorium.Comment.Docstring
