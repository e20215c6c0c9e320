import Scriptorium.Diff.Unified
import Scriptorium.Proofs.Decimal
import Scriptorium.Text.Search
set_option autoImplicit false

/-!
# Reading patches

A reader of unified diffs that knows nothing of how they are made.  The text is cut at line feeds;
an empty piece says that the line before it ended in a line feed of its own.  A line that starts
with a mark belongs to the hunk of the heading before it, and a heading counts the lines of its
hunk.  A patch is applied by replacing, at the place that each heading names, lines that must be
the ones that are there.
-/

namespace Scriptorium.Diff

/-- A line of a text, with its end. -/
abbrev Line := List Char

/-! ## Patches -/

/-- What the mark of a line says. -/
inductive Mark where
  | kept
  | deleted
  | inserted
  deriving DecidableEq, Repr

/-- The sign of a mark. -/
def Mark.sign : Mark → Char
  | kept => ' '
  | deleted => '-'
  | inserted => '+'

/-- The mark of a sign. -/
def Mark.ofSign? (c : Char) : Option Mark :=
  if c = ' ' then some kept
  else if c = '-' then some deleted
  else if c = '+' then some inserted
  else none

/-- Lines of a text: how many stand before them, and how many they are. -/
structure Span where
  start : Nat
  size : Nat
  deriving DecidableEq, Repr

/-- A hunk of a patch. -/
structure Hunk where
  old : Span
  new : Span
  body : List (Mark × Line)
  deriving DecidableEq, Repr

/-- The lines of the old text. -/
def oldLines (body : List (Mark × Line)) : List Line :=
  (body.filter (·.1 ≠ .inserted)).map (·.2)

/-- The lines of the new text. -/
def newLines (body : List (Mark × Line)) : List Line :=
  (body.filter (·.1 ≠ .deleted)).map (·.2)

/-- Lines that are to be replaced, and those that replace them. -/
structure Replacement where
  start : Nat
  before : List Line
  after : List Line
  deriving DecidableEq, Repr

/-- What a hunk does to the old text. -/
def Hunk.forward (h : Hunk) : Replacement := ⟨h.old.start, oldLines h.body, newLines h.body⟩

/-- What a hunk undoes in the new text. -/
def Hunk.backward (h : Hunk) : Replacement := ⟨h.new.start, newLines h.body, oldLines h.body⟩

/-- Replaces lines of a text of which `done` lines have been passed; the lines to be replaced have
to be there. -/
def replaceAll? : List Replacement → Nat → List Line → Option (List Line)
  | [], _, lines => some lines
  | r :: rest, done, lines =>
    let place := r.start - done
    if done ≤ r.start ∧ place ≤ lines.length ∧ r.before <+: lines.drop place then
      (replaceAll? rest (r.start + r.before.length)
        (lines.drop (place + r.before.length))).map (lines.take place ++ r.after ++ ·)
    else none

/-- Replaces lines of a text. -/
def patchText? (replacements : List Replacement) (text : String) : Option String :=
  (replaceAll? replacements 0 (Text.linesWithEnds text.toList)).map
    fun lines => String.ofList lines.flatten

/-! ## The reader -/

/-- The lines of a text that was cut at line feeds. -/
def regroup : List Line → List Line
  | piece :: [] :: rest => (piece ++ ['\n']) :: regroup rest
  | piece :: rest => piece :: regroup rest
  | [] => []

/-- Reads a number. -/
def readNumber? (cs : List Char) : Option (Nat × List Char) :=
  match Decimal.spanDigits cs with
  | ([], _) => none
  | (digits, rest) => some (Decimal.natOf digits, rest)

/-- Reads the span of a heading: the number of its first line, and its size unless it is one.  A
span without lines stands behind the line of the number. -/
def readSpan? (cs : List Char) : Option (Span × List Char) := do
  let (first, rest) ← readNumber? cs
  match rest with
  | ',' :: rest =>
    let (size, rest) ← readNumber? rest
    return (⟨if size = 0 then first else first - 1, size⟩, rest)
  | rest => return (⟨first - 1, 1⟩, rest)

/-- Reads the heading of a hunk. -/
def readHeading? (line : Line) : Option (Span × Span) :=
  match line with
  | '@' :: '@' :: ' ' :: '-' :: rest => do
    let (old, rest) ← readSpan? rest
    match rest with
    | ' ' :: '+' :: rest => do
      let (new, rest) ← readSpan? rest
      if rest = [' ', '@', '@'] then some (old, new) else none
    | _ => none
  | _ => none

/-- Reads lines from the last one on: the body of the hunk that began before them, and the hunks
that follow. -/
def readHunks? : List Line → Option (List (Mark × Line) × List Hunk)
  | [] => some ([], [])
  | line :: rest => do
    let (body, hunks) ← readHunks? rest
    let first ← line.head?
    match Mark.ofSign? first with
    | some mark => some ((mark, line.tail) :: body, hunks)
    | none =>
      let (old, new) ← readHeading? line
      if (oldLines body).length = old.size ∧ (newLines body).length = new.size then
        some ([], ⟨old, new, body⟩ :: hunks)
      else none

/-- Reads a patch between two sides. -/
def readPatch? (old new : Side) (text : String) : Option (List Hunk) :=
  if text = "" then some []
  else match regroup (Text.splitAtChar '\n' text.toList) with
    | first :: second :: lines =>
      if first = ("--- " ++ old.label).toList ∧ second = ("+++ " ++ new.label).toList then
        match readHunks? lines with
        | some ([], hunks) => some hunks
        | _ => none
      else none
    | _ => none

/-! ## Headings are read back -/

/-- What stands behind a number does not continue it. -/
def EndsNumber (rest : List Char) : Prop := ∀ c ∈ rest.head?, Decimal.isDigit c = false

theorem readNumber?_toDigits (n : Nat) {rest : List Char} (h : EndsNumber rest) :
    readNumber? (Nat.toDigits 10 n ++ rest) = some (n, rest) := by
  unfold readNumber?
  rw [Decimal.spanDigits_toDigits n h]
  split
  · rename_i heq
    exact absurd (List.map_eq_nil_iff.mp (Prod.mk.inj heq).1) Nat.toDigits_ne_nil
  · rename_i heq
    obtain ⟨rfl, rfl⟩ := Prod.mk.inj heq
    rw [Decimal.natOf_toDigits]

/-- The text of a range, as digits. -/
theorem rangeText_toList (start stop : Nat) :
    (rangeText start stop).toList =
      if stop - start = 1 then Nat.toDigits 10 (start + 1)
      else Nat.toDigits 10 (if stop - start = 0 then start else start + 1) ++
        ',' :: Nat.toDigits 10 (stop - start) := by
  unfold rangeText
  dsimp only
  split
  · exact Decimal.wholeText_toList (start + 1)
  · have hfirst : (if stop - start = 0 then (start : Int) else start + 1) =
        ((if stop - start = 0 then start else start + 1 : Nat) : Int) := by
      split <;> rfl
    rw [hfirst, String.toList_append, String.toList_append, Decimal.wholeText_toList,
      Decimal.wholeText_toList, List.append_assoc]
    rfl

theorem readSpan?_rangeText (start stop : Nat) {rest : List Char} (h : EndsNumber rest)
    (hcomma : rest.head? ≠ some ',') :
    readSpan? ((rangeText start stop).toList ++ rest) = some (⟨start, stop - start⟩, rest) := by
  rw [rangeText_toList]
  split
  · rename_i hone
    rw [readSpan?, readNumber?_toDigits _ h, hone]
    simp only [Option.bind_eq_bind, Option.bind_some]
    split
    · exact absurd rfl hcomma
    · rfl
  · have hends : ∀ more, EndsNumber (',' :: more) := by
      intro more c hc
      obtain rfl := Option.some.inj hc
      rfl
    rw [List.append_assoc, List.cons_append, readSpan?, readNumber?_toDigits _ (hends _)]
    simp only [Option.bind_eq_bind, Option.bind_some, readNumber?_toDigits _ h]
    split <;> simp_all

/-- The heading that a hunk is printed under. -/
def headingText (i p j q : Nat) : Line :=
  ("@@ -" ++ rangeText i p ++ " +" ++ rangeText j q ++ " @@").toList

theorem readHeading?_headingText (i p j q : Nat) :
    readHeading? (headingText i p j q) = some (⟨i, p - i⟩, ⟨j, q - j⟩) := by
  have htext : headingText i p j q = '@' :: '@' :: ' ' :: '-' :: ((rangeText i p).toList ++
      ' ' :: '+' :: ((rangeText j q).toList ++ [' ', '@', '@'])) := by
    simp [headingText]
  have hends : ∀ more, EndsNumber (' ' :: more) := by
    intro more c hc
    obtain rfl := Option.some.inj hc
    rfl
  rw [htext, readHeading?, readSpan?_rangeText _ _ (hends _) (by simp)]
  simp only [Option.bind_eq_bind, Option.bind_some]
  rw [readSpan?_rangeText _ _ (hends _) (by simp)]
  rfl

/-! ## Hunks are read back -/

theorem ofSign?_sign (mark : Mark) : Mark.ofSign? mark.sign = some mark := by
  cases mark <;> rfl

/-- Marked lines are read as the body that they are. -/
theorem readHunks?_marked (body : List (Mark × Line)) (rest : List Line) :
    readHunks? (body.map (fun l => l.1.sign :: l.2) ++ rest) =
      (readHunks? rest).map fun read => (body ++ read.1, read.2) := by
  induction body with
  | nil => simp
  | cons l body ih =>
      rw [List.map_cons, List.cons_append, readHunks?, ih]
      cases readHunks? rest with
      | none => rfl
      | some read => simp [ofSign?_sign]

/-- A heading that counts the lines behind it is read as the beginning of their hunk. -/
theorem readHunks?_heading {i p j q : Nat} {lines : List Line} {body : List (Mark × Line)}
    {hunks : List Hunk} (h : readHunks? lines = some (body, hunks))
    (hold : (oldLines body).length = p - i) (hnew : (newLines body).length = q - j) :
    readHunks? (headingText i p j q :: lines) =
      some ([], ⟨⟨i, p - i⟩, ⟨j, q - j⟩, body⟩ :: hunks) := by
  have hhead : (headingText i p j q).head? = some '@' := by simp [headingText]
  have hmark : Mark.ofSign? '@' = none := rfl
  rw [readHunks?, h]
  simp only [Option.bind_eq_bind, Option.bind_some, hhead, hmark, readHeading?_headingText, hold,
    hnew, and_self, if_true]

/-! ## Joined lines are cut back -/

theorem splitAtChar_append {mark : Char} {cs : List Char} (h : mark ∉ cs) (rest : List Char) :
    Text.splitAtChar mark (cs ++ mark :: rest) = cs :: Text.splitAtChar mark rest := by
  rw [Text.splitAtChar_append_mark, Text.splitAtChar_of_not_mem h, List.singleton_append]

theorem splitAtChar_mark (mark : Char) (rest : List Char) :
    Text.splitAtChar mark (mark :: rest) = [] :: Text.splitAtChar mark rest :=
  splitAtChar_append List.not_mem_nil rest

theorem splitAtChar_cons_of_ne {mark c : Char} (h : c ≠ mark) (rest : List Char) :
    ∃ piece pieces, Text.splitAtChar mark (c :: rest) = (c :: piece) :: pieces := by
  rw [Text.splitAtChar, if_neg h]
  split
  · exact ⟨_, _, rfl⟩
  · exact ⟨[], [], rfl⟩

/-- A line does not start with a line feed and has none before its end. -/
structure OneLine (line : Line) : Prop where
  head : line.head?.any (· ≠ '\n') = true
  inner : '\n' ∉ line.dropLast

theorem OneLine.exists_head {line : Line} (h : OneLine line) :
    ∃ c cs, line = c :: cs ∧ c ≠ '\n' := by
  have hhead := h.head
  cases line with
  | nil => simp at hhead
  | cons c cs => exact ⟨c, cs, rfl, by simpa using hhead⟩

/-- A line is one piece, or one piece and the line feed behind it. -/
theorem OneLine.cases {line : Line} (h : OneLine line) :
    '\n' ∉ line ∨ ∃ piece, line = piece ++ ['\n'] ∧ '\n' ∉ piece := by
  rcases List.eq_nil_or_concat line with rfl | ⟨piece, c, rfl⟩
  · exact .inl List.not_mem_nil
  · have hinner := h.inner
    rw [List.concat_eq_append, List.dropLast_concat] at hinner
    rw [List.concat_eq_append]
    by_cases hc : c = '\n'
    · exact .inr ⟨piece, by rw [hc], hinner⟩
    · exact .inl (by simp [hinner, Ne.symm hc])

theorem regroup_cons_of_ne (piece : Line) {next : Line} (h : next ≠ []) (rest : List Line) :
    regroup (piece :: next :: rest) = piece :: regroup (next :: rest) := by
  cases next with
  | nil => exact absurd rfl h
  | cons c cs =>
      rw [regroup]
      simp

/-- Lines that are joined start as the first of them. -/
theorem join_eq_cons {c : Char} (cs : Line) (rest : List Line) :
    ∃ more, ['\n'].intercalate ((c :: cs) :: rest) = c :: more := by
  cases rest with
  | nil => exact ⟨cs, List.intercalate_singleton⟩
  | cons next rest => exact ⟨_, List.intercalate_cons_cons⟩

theorem toList_join (lines : List Line) :
    ("\n".intercalate (lines.map String.ofList)).toList = ['\n'].intercalate lines := by
  simp [String.toList_intercalate, Function.comp_def]

theorem join_ne_empty {first : Line} (hne : first ≠ []) (rest : List Line) :
    "\n".intercalate ((first :: rest).map String.ofList) ≠ "" := by
  intro hempty
  obtain ⟨c, cs, rfl⟩ := List.exists_cons_of_ne_nil hne
  obtain ⟨more, hmore⟩ := join_eq_cons cs rest (c := c)
  have htext := toList_join ((c :: cs) :: rest)
  rw [hempty, hmore] at htext
  simp at htext

/-- Lines that are joined by line feeds are read as the lines that they are. -/
theorem regroup_split_join {lines : List Line} (hne : lines ≠ []) (h : ∀ l ∈ lines, OneLine l) :
    regroup (Text.splitAtChar '\n' (['\n'].intercalate lines)) = lines := by
  induction lines with
  | nil => exact absurd rfl hne
  | cons line rest ih =>
      rw [List.forall_mem_cons] at h
      cases rest with
      | nil =>
          rw [List.intercalate_singleton]
          rcases h.1.cases with hnot | ⟨piece, rfl, hnot⟩
          · rw [Text.splitAtChar_of_not_mem hnot]
            rfl
          · rw [splitAtChar_append hnot]
            rfl
      | cons next rest =>
          have hrest := ih (by simp) h.2
          rw [List.intercalate_cons_cons, List.append_assoc]
          rcases h.1.cases with hnot | ⟨piece, rfl, hnot⟩
          · -- The piece behind the line is not empty, so that the line has no line feed.
            obtain ⟨c, cs, rfl, hc⟩ := (h.2 next List.mem_cons_self).exists_head
            obtain ⟨more, hmore⟩ := join_eq_cons cs rest (c := c)
            obtain ⟨first, pieces, hpieces⟩ := splitAtChar_cons_of_ne hc more
            rw [hmore, hpieces] at hrest
            rw [hmore, List.singleton_append, splitAtChar_append hnot, hpieces,
              regroup_cons_of_ne line (by simp), hrest]
          · rw [List.append_assoc, List.singleton_append, splitAtChar_append hnot,
              List.singleton_append, splitAtChar_mark, regroup, hrest]

/-- The parts of a patch that are joined by line feeds are read as its hunks. -/
theorem readPatch?_join {old new : Side} {lines : List Line} {hunks : List Hunk}
    (hread : readHunks? lines = some ([], hunks))
    (hold : OneLine ("--- " ++ old.label).toList) (hnew : OneLine ("+++ " ++ new.label).toList)
    (hlines : ∀ l ∈ lines, OneLine l) :
    readPatch? old new ("\n".intercalate
      ((("--- " ++ old.label).toList :: ("+++ " ++ new.label).toList :: lines).map String.ofList)) =
      some hunks := by
  generalize hfirst : ("--- " ++ old.label).toList = first at hold ⊢
  generalize hsecond : ("+++ " ++ new.label).toList = second at hnew ⊢
  have hcut : regroup (Text.splitAtChar '\n' (['\n'].intercalate (first :: second :: lines))) =
      first :: second :: lines := by
    refine regroup_split_join (by simp) ?_
    simp only [List.forall_mem_cons]
    exact ⟨hold, hnew, hlines⟩
  have hne : first ≠ [] := by
    obtain ⟨c, cs, rfl, -⟩ := hold.exists_head
    exact List.cons_ne_nil c cs
  rw [readPatch?, if_neg (join_ne_empty hne _), toList_join, hcut]
  simp only [hfirst, hsecond, and_self, if_true, hread]

/-- A kept line with a line feed, and a deleted one without. -/
example :
    readPatch? ⟨"old", ""⟩ ⟨"new", ""⟩ "--- old\n+++ new\n@@ -4,2 +4 @@\n a\n\n-b" =
      some [⟨⟨3, 2⟩, ⟨3, 1⟩, [(.kept, ['a', '\n']), (.deleted, ['b'])]⟩] := by
  decide +kernel

end Scriptorium.Diff
