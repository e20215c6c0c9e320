import Scriptorium.Documentation.Report
import Scriptorium.Proofs.Outcome
import Scriptorium.Proofs.Source.Comments
import Scriptorium.Proofs.Text.Bytes
set_option autoImplicit false

/-!
# The lines on which constructs stand

An outline counts lines by line feeds, the facts about a file by all ends of lines.  A keyword has
no end of a line in it, so it stands on the line that the outline gives; and since a line feed is an
end of a line, by itself or behind a carriage return, that line is one of those that are counted.
-/

namespace Scriptorium

namespace Text

theorem linesOf_ne_nil {cs line : List Char} (h : line ≠ [] ∨ cs ≠ []) : linesOf cs line ≠ [] := by
  intro hnil
  have hflat := linesOf_flatten cs line
  rw [hnil, List.flatten_nil, eq_comm, List.append_eq_nil_iff, List.reverse_eq_nil_iff] at hflat
  rcases h with h | h
  · exact h hflat.1
  · exact h hflat.2

/-- Before any of its characters a text has fewer line feeds than it has lines. -/
theorem count_lt_length_linesOf {cs line : List Char} {i : Nat} (h : i < cs.length) :
    (cs.take i).count '\n' < (linesOf cs line).length := by
  fun_induction linesOf cs line generalizing i with
  | case1 | case2 => cases h
  | case3 rest line ih =>
      -- a carriage return before a line feed: one end of a line, and one line feed
      rcases i with - | - | i
      · simp
      · simp
      · have hrest := ih (i := i) (by simpa using h)
        simp only [List.take_succ_cons, List.count_cons, List.length_cons]
        exact Nat.succ_lt_succ hrest
  | case4 c rest line _ hend ih =>
      cases i with
      | zero => simp
      | succ i =>
          have hrest := ih (i := i) (by simpa using h)
          rw [List.take_succ_cons, List.count_cons, List.length_cons]
          split <;> omega
  | case5 c rest line _ hend ih =>
      have hc : c ≠ '\n' := by
        rintro rfl
        exact hend rfl
      cases i with
      | zero => exact List.length_pos_iff.mpr (linesOf_ne_nil (.inl (List.cons_ne_nil _ _)))
      | succ i =>
          rw [List.take_succ_cons, List.count_cons_of_ne hc]
          exact ih (by simpa using h)

theorem count_lt_length_lines {cs : List Char} {i : Nat} (h : i < cs.length) :
    (cs.take i).count '\n' < (lines cs).length := by
  rw [lines, List.length_map]
  exact count_lt_length_linesOf h

end Text

namespace Source

/-! ## Lines and line feeds -/

theorem lineFrom_eq (line i : Nat) (cs : List Char) :
    lineFrom line i cs = line + (cs.take i).count '\n' := by
  induction cs generalizing line i with
  | nil => simp [lineFrom]
  | cons c rest ih =>
      cases i with
      | zero => simp [lineFrom]
      | succ i =>
          rw [lineFrom, ih, List.take_succ_cons, List.count_cons]
          by_cases hc : c = '\n'
          · simp only [hc, if_true, beq_self_eq_true]
            omega
          · simp [hc]

theorem lineAt_eq (cs : List Char) (i : Nat) : lineAt cs i = (cs.take i).count '\n' + 1 := by
  rw [lineAt, lineFrom_eq, Nat.add_comm]

theorem lineAt_mono (cs : List Char) {i j : Nat} (h : i ≤ j) : lineAt cs i ≤ lineAt cs j := by
  rw [lineAt_eq, lineAt_eq]
  exact Nat.succ_le_succ ((List.take_sublist_take_left h).count_le _)

/-- A word stands on a line of a text: lines are separated by line feeds and counted from one. -/
def StandsOn (word : String) (cs : List Char) (line : Nat) : Prop :=
  ∃ text, 0 < line ∧ (cs.splitOn '\n')[line - 1]? = some text ∧ word.toList <:+: text

/-- What a text begins with, up to a line feed, its first line begins with. -/
theorem prefix_splitOn {word cs : List Char} (hword : '\n' ∉ word) (h : word <+: cs) :
    ∃ text, (cs.splitOn '\n')[0]? = some text ∧ word <+: text := by
  induction cs generalizing word with
  | nil => exact ⟨[], rfl, h⟩
  | cons c rest ih =>
      cases word with
      | nil =>
          obtain ⟨text, more, htext⟩ := List.exists_cons_of_ne_nil
            (List.splitOn_ne_nil '\n' (c :: rest))
          exact ⟨text, by rw [htext, List.getElem?_cons_zero], List.nil_prefix⟩
      | cons w word =>
          obtain ⟨rfl, hrest⟩ := List.cons_prefix_cons.mp h
          rw [List.mem_cons, not_or] at hword
          obtain ⟨hw, hword⟩ := hword
          obtain ⟨text, htext, hprefix⟩ := ih hword hrest
          refine ⟨w :: text, ?_, List.cons_prefix_cons.mpr ⟨rfl, hprefix⟩⟩
          rw [List.splitOn_cons_eq_if_modifyHead, if_neg (by simpa using Ne.symm hw),
            List.getElem?_modifyHead_zero, htext, Option.map_some]

/-- What stands at an index, up to a line feed, is part of the line with the number of line feeds
before. -/
theorem infix_splitOn {word cs : List Char} {i : Nat} (hword : '\n' ∉ word)
    (h : word <+: cs.drop i) :
    ∃ text, (cs.splitOn '\n')[(cs.take i).count '\n']? = some text ∧ word <:+: text := by
  induction cs generalizing i with
  | nil =>
      obtain rfl := List.prefix_nil.mp (List.drop_nil ▸ h)
      exact ⟨[], by simp, List.nil_infix⟩
  | cons c rest ih =>
      cases i with
      | zero =>
          obtain ⟨text, htext, hprefix⟩ := prefix_splitOn hword h
          exact ⟨text, htext, hprefix.isInfix⟩
      | succ i =>
          obtain ⟨text, htext, hinfix⟩ := ih (i := i) h
          rw [List.splitOn_cons_eq_if_modifyHead, List.take_succ_cons, List.count_cons]
          by_cases hc : c = '\n'
          · exact ⟨text, by simpa [hc] using htext, hinfix⟩
          · rw [if_neg (by simpa using hc), if_neg (by simpa using hc), Nat.add_zero]
            -- the line goes on with this character if it is the first one
            cases hcount : (rest.take i).count '\n' with
            | zero =>
                rw [hcount] at htext
                exact ⟨c :: text, by rw [List.getElem?_modifyHead_zero, htext, Option.map_some],
                  List.infix_cons hinfix⟩
            | succ k =>
                rw [hcount] at htext
                exact ⟨text, by rw [List.getElem?_modifyHead_succ, htext], hinfix⟩

/-- A word without a line feed stands on the line of its index. -/
theorem standsOn_lineAt {word : String} {cs : List Char} {i : Nat} (hword : '\n' ∉ word.toList)
    (h : Stands word cs i) : StandsOn word cs (lineAt cs i) := by
  obtain ⟨text, htext, hinfix⟩ := infix_splitOn hword h
  refine ⟨text, ?_, ?_, hinfix⟩
  · rw [lineAt_eq]
    exact Nat.succ_pos _
  · rw [lineAt_eq, Nat.add_sub_cancel, htext]

/-! ## Keywords -/

/-- The keyword that a function begins with. -/
def FunctionForm.keyword : FunctionForm → String
  | .declaration => "function"
  | .arrow => "const"

theorem FunctionForm.keyword_word (form : FunctionForm) :
    form.keyword ≠ "" ∧ '\n' ∉ form.keyword.toList := by
  cases form <;> decide

theorem prefix_of_behind? {word cs rest : List Char} (h : behind? word cs = some rest) :
    word <+: cs := by
  induction word generalizing cs with
  | nil => exact List.nil_prefix
  | cons w word ih =>
      cases cs with
      | nil => cases h
      | cons c cs =>
          simp only [behind?] at h
          split at h
          · rename_i heq
            exact List.cons_prefix_cons.mpr ⟨heq, ih h⟩
          · cases h

/-- A recogniser of constructs that begin with a keyword, which is some word on one line. -/
structure Heads {α : Type} (recognise : Recogniser α) (keyword : α → String) : Prop where
  stands : ∀ {cs x size}, recognise cs = some (x, size) → Stands (keyword x) cs 0
  word : ∀ x, keyword x ≠ "" ∧ '\n' ∉ (keyword x).toList

theorem heads_functionHead : Heads functionHead fun found => found.2.keyword where
  stands := by
    intro cs x size h
    unfold functionHead at h
    split at h
    · rename_i name rest hdeclared
      obtain ⟨rfl, -⟩ := Prod.mk.inj (Option.some.inj h)
      unfold declaration? at hdeclared
      obtain ⟨rest, hrest, -⟩ := Option.bind_eq_some_iff.mp hdeclared
      exact prefix_of_behind? hrest
    · obtain ⟨found, harrow, hpair⟩ := Option.map_eq_some_iff.mp h
      obtain ⟨rfl, -⟩ := Prod.mk.inj hpair
      unfold arrow? at harrow
      obtain ⟨rest, hrest, -⟩ := Option.bind_eq_some_iff.mp harrow
      exact prefix_of_behind? hrest
  word := fun found => found.2.keyword_word

theorem heads_classHead : Heads classHead fun _ => "class" where
  stands := by
    intro cs x size h
    unfold classHead at h
    obtain ⟨rest, hrest, -⟩ := Option.bind_eq_some_iff.mp h
    exact prefix_of_behind? hrest
  word := fun _ => by decide

theorem heads_importHead : Heads importHead fun _ => "import" where
  stands := by
    intro cs x size h
    unfold importHead at h
    obtain ⟨rest, hrest, -⟩ := Option.bind_eq_some_iff.mp h
    exact prefix_of_behind? hrest
  word := fun _ => by decide

/-! ## Constructs in order -/

/-- Lines with keywords are listed as the text has them: the keywords stand at places that go from
left to right, each on the line with its number, and no line number is less than the one before. -/
structure Listed (cs : List Char) (marks : List (Nat × String)) : Prop where
  places : ∃ places : List Nat, places.Pairwise (· < ·) ∧ places.length = marks.length ∧
    ∀ pair ∈ places.zip marks, Stands pair.2.2 cs pair.1 ∧
      pair.2.1 = (cs.take pair.1).count '\n' + 1
  nondecreasing : marks.Pairwise fun a b => a.1 ≤ b.1
  onLine : ∀ mark ∈ marks, StandsOn mark.2 cs mark.1

section Listed

variable {α : Type} {recognise : Recogniser α} {keyword : α → String}

/-- What is found begins with its keyword. -/
theorem Heads.stands_of_mem (h : Heads recognise keyword) {cs : List Char} {found : Nat × α}
    (hfound : found ∈ findAll recognise cs) : Stands (keyword found.2) cs found.1 := by
  obtain ⟨size, hsize⟩ := recognised_of_mem_findAll hfound
  exact stands_add_iff.mpr (h.stands hsize)

theorem Heads.listed (h : Heads recognise keyword) (cs : List Char) :
    Listed cs ((findAll recognise cs).map fun found => (lineAt cs found.1, keyword found.2)) where
  places := by
    refine ⟨starts recognise cs, ?_, by simp [starts], ?_⟩
    · rw [starts, List.pairwise_map]
      exact pairwise_findAll recognise cs
    · intro pair hpair
      rw [starts, List.zip_map'] at hpair
      obtain ⟨found, hfound, rfl⟩ := List.mem_map.mp hpair
      exact ⟨h.stands_of_mem hfound, lineAt_eq cs found.1⟩
  nondecreasing := by
    rw [List.pairwise_map]
    exact (pairwise_findAll recognise cs).imp fun hlt => lineAt_mono cs (Nat.le_of_lt hlt)
  onLine := by
    intro mark hmark
    obtain ⟨found, hfound, rfl⟩ := List.mem_map.mp hmark
    exact standsOn_lineAt (h.word found.2).2 (h.stands_of_mem hfound)

/-- The line of what is found is one of the lines of the text. -/
theorem Heads.line_le (h : Heads recognise keyword) {cs : List Char} {found : Nat × α}
    (hfound : found ∈ findAll recognise cs) : lineAt cs found.1 ≤ (Text.lines cs).length := by
  have hword : 0 < (keyword found.2).toList.length :=
    List.length_pos_iff.mpr (by simpa using (h.word found.2).1)
  have hlength := (h.stands_of_mem hfound).length_le
  rw [List.length_drop] at hlength
  rw [lineAt_eq]
  exact Text.count_lt_length_lines (by omega)

end Listed

/-- What an outline lists, one list for each kind of construct: the lines, and the keyword that the
construct on the line begins with. -/
def Outline.marks (o : Outline) : List (List (Nat × String)) :=
  [o.functions.map fun f => (f.line, f.form.keyword), o.classes.map fun c => (c.line, "class"),
    o.imports.map fun i => (i.line, "import")]

theorem marks_outline (cs : List Char) :
    (outline cs).marks =
      [(findAll functionHead cs).map fun found => (lineAt cs found.1, found.2.2.keyword),
        (findAll classHead cs).map fun found => (lineAt cs found.1, "class"),
        (findAll importHead cs).map fun found => (lineAt cs found.1, "import")] := by
  simp only [Outline.marks, outline, List.map_map, Function.comp_def]

theorem listed_marks {cs : List Char} {marks : List (Nat × String)}
    (h : marks ∈ (outline cs).marks) : Listed cs marks := by
  simp only [marks_outline, List.mem_cons, List.not_mem_nil, or_false] at h
  rcases h with rfl | rfl | rfl
  · exact heads_functionHead.listed cs
  · exact heads_classHead.listed cs
  · exact heads_importHead.listed cs

theorem line_le_of_mem_marks {cs : List Char} {marks : List (Nat × String)}
    (h : marks ∈ (outline cs).marks) {mark : Nat × String} (hmark : mark ∈ marks) :
    mark.1 ≤ (Text.lines cs).length := by
  simp only [marks_outline, List.mem_cons, List.not_mem_nil, or_false] at h
  rcases h with rfl | rfl | rfl <;> obtain ⟨found, hfound, rfl⟩ := List.mem_map.mp hmark
  · exact heads_functionHead.line_le hfound
  · exact heads_classHead.line_le hfound
  · exact heads_importHead.line_le hfound

/-! ## The facts about a file -/

open Documentation Outcome

theorem lines_of_metadata [Halves] {content : String} {suffix : Value} {now : Stamp} {m : Metadata}
    (h : metadata (.text content) suffix now = .ok m) :
    m.lines = (Text.lines content.toList).length := by
  simp only [metadata, bind_eq_ok_iff, pure_eq_ok_iff] at h
  obtain ⟨_, -, _, -, text, htext, _, -, rfl⟩ := h
  obtain rfl : content = text := Except.ok.inj htext
  rfl

theorem exists_bytes_iff [Halves] (content : String) :
    (∃ bytes, (Value.text content).bytes = .ok bytes) ↔
      ∀ c ∈ content.toList, Text.Half.isHalf c = false := by
  rw [← Text.Utf8.encodeError?_eq_none_iff]
  cases hcode : Text.Utf8.encodeError? content with
  | none => simp [Value.bytes, Value.textFor, Text.Utf8.encode, hcode, bind, Except.bind, pure,
      Except.pure]
  | some e => simp [Value.bytes, Value.textFor, Text.Utf8.encode, hcode, bind, Except.bind, throw,
      throwThe, MonadExceptOf.throw]

/-- There are facts about a text exactly if it can be encoded. -/
theorem exists_metadata_iff [Halves] (content suffix : String) (now : Stamp) :
    (∃ m, metadata (.text content) (.text suffix) now = .ok m) ↔
      ∀ c ∈ content.toList, Text.Half.isHalf c = false := by
  rw [← exists_bytes_iff]
  have hdocumented : ∃ b, hasDocumentation (.text content) (.text suffix) = .ok b := by
    unfold hasDocumentation
    split
    · exact ⟨_, (apply_ite Except.ok _ _ _).symm⟩
    all_goals exact ⟨_, rfl⟩
  obtain ⟨b, hb⟩ := hdocumented
  simp only [metadata, bind_eq_ok_iff, pure_eq_ok_iff]
  constructor
  · rintro ⟨m, _, -, bytes, hbytes, -⟩
    exact ⟨bytes, hbytes⟩
  · rintro ⟨bytes, hbytes⟩
    exact ⟨_, _, rfl, bytes, hbytes, content, rfl, b, hb, rfl⟩

/-- For every script the functions, the classes and the imports are each listed in the order of the
text, with lines that do not decrease; the line of each exists, counted by line feeds from one, and
holds the keyword; and it is at most the number of lines among the facts about the file, which there
are exactly if the text can be encoded. -/
theorem constructs_stand_on_their_lines [Halves] (format : Format) (content : String) :
    ∃ o, scriptStructure format (.text content) = .outlined format o ∧
      (∀ marks ∈ o.marks, Listed content.toList marks ∧
        ∀ suffix now m, metadata (.text content) suffix now = .ok m →
          ∀ mark ∈ marks, mark.1 ≤ m.lines) ∧
      ∀ suffix now, (∃ m, metadata (.text content) (.text suffix) now = .ok m) ↔
        ∀ c ∈ content.toList, Text.Half.isHalf c = false := by
  refine ⟨outline content.toList, rfl, ?_, exists_metadata_iff content⟩
  intro marks hmarks
  refine ⟨listed_marks hmarks, ?_⟩
  intro suffix now m hm mark hmark
  rw [lines_of_metadata hm]
  exact line_le_of_mem_marks hmarks hmark

/-- A script of four lines, the first of which ends in a carriage return and a line feed.  The two
form feeds end lines of their own when all ends of lines are counted. -/
def fourLines : String :=
  "import 'a'\r\nclass C \x7b\x7d\n\x0cconst f = x =>\n\x0cfunction g("

section

open scoped Halves.Plain

/-- The declared function stands on the fourth line, and more lines are counted. -/
theorem function_on_fourth_line :
    (outline fourLines.toList).marks =
        [[(3, "const"), (4, "function")], [(2, "class")], [(1, "import")]] ∧
      StandsOn "function" fourLines.toList 4 ∧
      ∃ m, metadata (.text fourLines) (.text ".js") ⟨0, none⟩ = .ok m ∧ 4 ≤ m.lines := by
  have hmarks : (outline fourLines.toList).marks =
      [[(3, "const"), (4, "function")], [(2, "class")], [(1, "import")]] := by
    decide +kernel
  have hwhole : fourLines.toList.all (fun c => !Text.Half.isHalf c) = true := by decide +kernel
  obtain ⟨o, ho, hlisted, hfacts⟩ := constructs_stand_on_their_lines .javascript fourLines
  obtain ⟨-, rfl⟩ := Structure.outlined.inj ho
  obtain ⟨hfunctions, hcounted⟩ := hlisted [(3, "const"), (4, "function")]
    (by rw [hmarks]; exact List.mem_cons_self)
  obtain ⟨m, hm⟩ := (hfacts ".js" ⟨0, none⟩).mpr (by simpa using hwhole)
  have hmem : (4, "function") ∈ [(3, "const"), (4, "function")] := by simp
  exact ⟨hmarks, hfunctions.onLine _ hmem, m, hm, hcounted _ _ m hm _ hmem⟩

end

end Source

end Scriptorium
