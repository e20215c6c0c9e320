import Scriptorium.Documentation.Report
import Scriptorium.Proofs.Diff.Hunks
import Scriptorium.Proofs.Diff.Patch
set_option autoImplicit false

/-!
# The difference of two texts is a faithful patch

What the reader of patches finds in the difference of two texts turns the one text into the other
and back.  The hunks of the edits explain the difference of the lines (`explains_hunks`), each of
them is read back with the places and sizes of its heading, and lines that are replaced at places
between which both sequences are equal give the other sequence.
-/

namespace Scriptorium.Diff

/-! ## Replacing lines -/

/-- From `i` and `j` on, replacing parts of one sequence by parts of the other gives the other. -/
inductive Replaces (xs ys : List Line) : Nat → Nat → List Replacement → Prop where
  | nil {i j : Nat} (equal : xs.drop i = ys.drop j) : Replaces xs ys i j []
  | cons {i j m n p q : Nat} {rest : List Replacement} (same : Same xs ys i j m n) (hleft : m ≤ p)
      (hright : n ≤ q) (hstop : p ≤ xs.length) (htail : Replaces xs ys p q rest) :
      Replaces xs ys i j (⟨m, slice xs m p, slice ys n q⟩ :: rest)

/-- The lines to be replaced are there, and the replaced lines are the other sequence. -/
theorem Replaces.replaceAll?_eq {xs ys : List Line} {i j : Nat} {rs : List Replacement}
    (h : Replaces xs ys i j rs) : replaceAll? rs i (xs.drop i) = some (ys.drop j) := by
  induction h with
  | nil equal => rw [replaceAll?, equal]
  | @cons i j m n p q rest same hleft hright hstop htail ih =>
      have him := same.leftLe
      have hdrop : (xs.drop i).drop (m - i) = xs.drop m := by
        rw [List.drop_drop, show i + (m - i) = m by omega]
      have hpassed : (xs.drop i).take (m - i) = slice ys j n := by
        rw [← slice_eq, same.equal]
      have hbefore : slice xs m p <+: (xs.drop i).drop (m - i) := by
        rw [hdrop, ← slice_append_drop xs hleft]
        exact List.prefix_append _ _
      have hrest : (xs.drop i).drop (m - i + (slice xs m p).length) = xs.drop p := by
        rw [List.drop_drop, length_slice hstop, show i + (m - i + (p - m)) = p by omega]
      have hdone : m + (slice xs m p).length = p := by
        rw [length_slice hstop]
        omega
      have hplace : m - i ≤ (xs.drop i).length := by
        rw [List.length_drop]
        omega
      -- The lines before the place are those of the other sequence, and so is what replaces these.
      simp only [replaceAll?, him, hplace, hbefore, hdone, hrest, hpassed, ih, and_self, if_true,
        Option.map_some]
      rw [List.append_assoc, slice_append_drop ys hright, slice_append_drop ys same.rightLe]

/-! ## The lines of hunks -/

section Hunks

variable {left right : List Line}

/-- The lines of one edit, with their marks. -/
def markedLines (left right : List Line) (e : Edit) : List (Mark × Line) :=
  match e.action with
  | .keep => (slice left e.leftStart e.leftStop).map (.kept, ·)
  | .replace => (slice left e.leftStart e.leftStop).map (.deleted, ·) ++
      (slice right e.rightStart e.rightStop).map (.inserted, ·)
  | .delete => (slice left e.leftStart e.leftStop).map (.deleted, ·)
  | .insert => (slice right e.rightStart e.rightStop).map (.inserted, ·)

theorem editLines_eq (left right : List Line) (e : Edit) :
    editLines left right e = (markedLines left right e).map fun l => l.1.sign :: l.2 := by
  unfold editLines markedLines
  cases e.action <;> simp [Mark.sign, Function.comp_def]

theorem oldLines_append (front rest : List (Mark × Line)) :
    oldLines (front ++ rest) = oldLines front ++ oldLines rest := by
  simp [oldLines]

theorem newLines_append (front rest : List (Mark × Line)) :
    newLines (front ++ rest) = newLines front ++ newLines rest := by
  simp [newLines]

theorem oldLines_map (mark : Mark) (lines : List Line) :
    oldLines (lines.map (mark, ·)) = if mark = .inserted then [] else lines := by
  induction lines with
  | nil => simp [oldLines]
  | cons line rest ih => cases mark <;> simp_all [oldLines]

theorem newLines_map (mark : Mark) (lines : List Line) :
    newLines (lines.map (mark, ·)) = if mark = .deleted then [] else lines := by
  induction lines with
  | nil => simp [newLines]
  | cons line rest ih => cases mark <;> simp_all [newLines]

theorem Edit.Valid.oldLines_marked {e : Edit} (h : e.Valid left right) :
    oldLines (markedLines left right e) = slice left e.leftStart e.leftStop := by
  unfold markedLines
  cases haction : e.action with
  | insert => rw [h.inserted haction, slice_self, oldLines_map, if_pos rfl]
  | _ => simp [oldLines_append, oldLines_map]

theorem Edit.Valid.newLines_marked {e : Edit} (h : e.Valid left right) :
    newLines (markedLines left right e) = slice right e.rightStart e.rightStop := by
  unfold markedLines
  cases haction : e.action with
  | keep => simp [newLines_map, (h.kept haction).equal]
  | delete => rw [h.deleted haction, slice_self, newLines_map, if_pos rfl]
  | _ => simp [newLines_append, newLines_map]

theorem Covers.le {m n p q : Nat} {hunk : List Edit} (h : Covers left right m n hunk p q) :
    m ≤ p ∧ n ≤ q := by
  induction h with
  | nil => exact ⟨Nat.le_refl _, Nat.le_refl _⟩
  | cons valid _ ih => exact ⟨Nat.le_trans valid.leftLe ih.1, Nat.le_trans valid.rightLe ih.2⟩

theorem Covers.le_length {m n p q : Nat} {hunk : List Edit} (h : Covers left right m n hunk p q)
    (hne : hunk ≠ []) : p ≤ left.length ∧ q ≤ right.length := by
  induction h with
  | nil => exact absurd rfl hne
  | @cons e rest p q valid htail ih =>
      cases rest with
      | nil =>
          obtain ⟨rfl, rfl⟩ := htail.of_nil
          exact ⟨valid.leftStop, valid.rightStop⟩
      | cons e' rest => exact ih (by simp)

/-- The old lines of a hunk are those that it stands for in the first sequence. -/
theorem Covers.oldLines_marked {m n p q : Nat} {hunk : List Edit}
    (h : Covers left right m n hunk p q) :
    oldLines (hunk.flatMap (markedLines left right)) = slice left m p := by
  induction h with
  | nil => rw [slice_self]; rfl
  | cons valid htail ih =>
      rw [List.flatMap_cons, oldLines_append, valid.oldLines_marked, ih,
        slice_append left valid.leftLe htail.le.1]

/-- The new lines of a hunk are those that it stands for in the second sequence. -/
theorem Covers.newLines_marked {m n p q : Nat} {hunk : List Edit}
    (h : Covers left right m n hunk p q) :
    newLines (hunk.flatMap (markedLines left right)) = slice right n q := by
  induction h with
  | nil => rw [slice_self]; rfl
  | cons valid htail ih =>
      rw [List.flatMap_cons, newLines_append, valid.newLines_marked, ih,
        slice_append right valid.rightLe htail.le.2]

theorem Covers.head?_eq {m n p q : Nat} {e : Edit} {rest : List Edit}
    (h : Covers left right m n (e :: rest) p q) : e.leftStart = m ∧ e.rightStart = n := by
  cases h with
  | cons => exact ⟨rfl, rfl⟩

theorem Covers.getLast_eq {m n p q : Nat} {e : Edit} {front : List Edit}
    (h : Covers left right m n (front ++ [e]) p q) : e.leftStop = p ∧ e.rightStop = q := by
  obtain ⟨_, _, -, hlast⟩ := h.of_append
  cases hlast with
  | cons _ htail => exact htail.of_nil

/-- A hunk is printed under a heading with the places that it covers. -/
theorem Covers.hunkLines_eq {m n p q : Nat} {hunk : List Edit}
    (h : Covers left right m n hunk p q) (hne : hunk ≠ []) :
    hunkLines left right hunk = headingText m p n q ::
      (hunk.flatMap (markedLines left right)).map fun l => l.1.sign :: l.2 := by
  obtain ⟨first, hfirst⟩ : ∃ e, hunk.head? = some e := ⟨_, List.head?_eq_some_head hne⟩
  obtain ⟨last, hlast⟩ : ∃ e, hunk.getLast? = some e := ⟨_, List.getLast?_eq_some_getLast hne⟩
  obtain ⟨rest, rfl⟩ := List.head?_eq_some_iff.mp hfirst
  obtain ⟨front, hfront⟩ := List.getLast?_eq_some_iff.mp hlast
  obtain ⟨hm, hn⟩ := h.head?_eq
  obtain ⟨hp, hq⟩ := (hfront ▸ h).getLast_eq
  have hlines : (first :: rest).flatMap (editLines left right) =
      ((first :: rest).flatMap (markedLines left right)).map fun l => l.1.sign :: l.2 := by
    have hfun : editLines left right = fun e =>
        (markedLines left right e).map fun l => l.1.sign :: l.2 := funext (editLines_eq left right)
    rw [List.map_flatMap, hfun]
  rw [hunkLines, hlast, hlines, List.head?_cons]
  simp only [headingText, hm, hn, hp, hq]

/-- The hunks that explain a difference are read back, and turn each sequence into the other. -/
theorem Explains.readHunks? {i j : Nat} {hunks : List (List Edit)}
    (h : Explains left right i j hunks) :
    ∃ read, Diff.readHunks? (hunks.flatMap (hunkLines left right)) = some ([], read) ∧
      Replaces left right i j (read.map Hunk.forward) ∧
      Replaces right left j i (read.map Hunk.backward) := by
  induction h with
  | nil equal => exact ⟨[], rfl, .nil equal, .nil equal.symm⟩
  | @cons i j m n p q hunk rest same ne covers _ ih =>
      obtain ⟨read, hread, hforward, hbackward⟩ := ih
      obtain ⟨hmp, hnq⟩ := covers.le
      obtain ⟨hp, hq⟩ := covers.le_length ne
      have hold := covers.oldLines_marked
      have hnew := covers.newLines_marked
      generalize hbody : hunk.flatMap (markedLines left right) = body at hold hnew
      refine ⟨⟨⟨m, p - m⟩, ⟨n, q - n⟩, body⟩ :: read, ?_, ?_, ?_⟩
      · rw [List.flatMap_cons, covers.hunkLines_eq ne, hbody, List.cons_append]
        refine readHunks?_heading ?_ ?_ ?_
        · rw [readHunks?_marked, hread, Option.map_some, List.append_nil]
        · rw [hold, length_slice hp]
        · rw [hnew, length_slice hq]
      · rw [List.map_cons, Hunk.forward, hold, hnew]
        exact .cons same hmp hnq hp hforward
      · rw [List.map_cons, Hunk.backward, hold, hnew]
        exact .cons same.symm hnq hmp hq hbackward

end Hunks

/-! ## The text -/

/-- The lines of a text have no line feed but at their ends. -/
theorem not_mem_dropLast_linesOf {cs line l : List Char} (hline : '\n' ∉ line)
    (hl : l ∈ Text.linesOf cs line) : '\n' ∉ l.dropLast := by
  have hlast {c : Char} {line : List Char} (h : '\n' ∉ line) :
      '\n' ∉ (c :: line).reverse.dropLast := by
    simpa using h
  fun_induction Text.linesOf cs line with
  | case1 line hempty => simp at hl
  | case2 line hempty =>
      obtain rfl := List.mem_singleton.mp hl
      exact fun hmem => hline (List.mem_reverse.mp (List.dropLast_subset _ hmem))
  | case3 line rest ih =>
      rcases List.mem_cons.mp hl with rfl | hrest
      · exact hlast (by simpa using hline)
      · exact ih List.not_mem_nil hrest
  | case4 line c rest hnot hend ih =>
      rcases List.mem_cons.mp hl with rfl | hrest
      · exact hlast hline
      · exact ih List.not_mem_nil hrest
  | case5 line c rest hnot hend ih =>
      refine ih ?_ hl
      rintro hmem
      rcases List.mem_cons.mp hmem with rfl | hmem
      · exact hend (by decide)
      · exact hline hmem

theorem mem_slice {α : Type} {xs : List α} {i j : Nat} {x : α} (h : x ∈ slice xs i j) : x ∈ xs :=
  List.mem_of_mem_take (List.mem_of_mem_drop h)

/-- The marked lines of an edit are lines of the texts. -/
theorem mem_of_mem_markedLines {left right : List Line} {e : Edit} {l : Mark × Line}
    (h : l ∈ markedLines left right e) : l.2 ∈ left ∨ l.2 ∈ right := by
  have hfrom {mark : Mark} {xs : List Line} {i j : Nat}
      (hl : l ∈ (slice xs i j).map (mark, ·)) : l.2 ∈ xs := by
    obtain ⟨line, hline, rfl⟩ := List.mem_map.mp hl
    exact mem_slice hline
  unfold markedLines at h
  split at h
  · exact .inl (hfrom h)
  · exact (List.mem_append.mp h).imp hfrom hfrom
  · exact .inl (hfrom h)
  · exact .inr (hfrom h)

theorem oneLine_mark {line : Line} (mark : Mark) (h : '\n' ∉ line.dropLast) :
    OneLine (mark.sign :: line) := by
  have hsign : '\n' ≠ mark.sign := by cases mark <;> decide
  refine ⟨by simpa using hsign.symm, ?_⟩
  cases line with
  | nil => simp
  | cons c cs => simpa [hsign] using h

theorem oneLine_of_not_mem {line : Line} (hne : line ≠ []) (h : '\n' ∉ line) : OneLine line := by
  refine ⟨?_, fun hmem => h (List.dropLast_subset _ hmem)⟩
  cases line with
  | nil => exact absurd rfl hne
  | cons c cs =>
      rw [List.mem_cons, not_or] at h
      simpa using Ne.symm h.1

theorem not_mem_rangeText (start stop : Nat) : '\n' ∉ (rangeText start stop).toList := by
  have hdigits (n : Nat) : '\n' ∉ Nat.toDigits 10 n :=
    fun hmem => absurd (Decimal.isDigit_of_mem_toDigits hmem) (by decide)
  rw [rangeText_toList]
  split
  · exact hdigits _
  · simp [hdigits]

theorem oneLine_headingText (i p j q : Nat) : OneLine (headingText i p j q) := by
  refine oneLine_of_not_mem (by simp [headingText]) ?_
  simp [headingText, not_mem_rangeText]

/-- The parts of a difference are lines. -/
theorem Explains.oneLine {left right : List Line} (hleft : ∀ l ∈ left, '\n' ∉ l.dropLast)
    (hright : ∀ l ∈ right, '\n' ∉ l.dropLast) {i j : Nat} {hunks : List (List Edit)}
    (h : Explains left right i j hunks) {part : Line}
    (hpart : part ∈ hunks.flatMap (hunkLines left right)) : OneLine part := by
  induction h with
  | nil => simp at hpart
  | cons _ ne covers _ ih =>
      rw [List.flatMap_cons, List.mem_append] at hpart
      rcases hpart with hhunk | hrest
      · rw [covers.hunkLines_eq ne, List.mem_cons, List.mem_map] at hhunk
        rcases hhunk with rfl | ⟨l, hl, rfl⟩
        · exact oneLine_headingText _ _ _ _
        · obtain ⟨e, -, he⟩ := List.mem_flatMap.mp hl
          exact oneLine_mark l.1 ((mem_of_mem_markedLines he).elim (hleft _) (hright _))
      · exact ih hrest

/-- Replacing lines of a text, from its beginning. -/
theorem Replaces.patchText?_eq {before after : String} {rs : List Replacement}
    (h : Replaces (Text.linesWithEnds before.toList) (Text.linesWithEnds after.toList) 0 0 rs) :
    patchText? rs before = some after := by
  have hlines := h.replaceAll?_eq
  rw [List.drop_zero, List.drop_zero] at hlines
  rw [patchText?, hlines, Option.map_some, Text.linesWithEnds_flatten, String.ofList_toList]

/-- The difference of two texts is read as a patch that turns each text into the other. -/
theorem unified_faithful {old new : Side} (hold : OneLine ("--- " ++ old.label).toList)
    (hnew : OneLine ("+++ " ++ new.label).toList) (before after : String) :
    ∃ hunks, readPatch? old new (unified old new before after) = some hunks ∧
      patchText? (hunks.map Hunk.forward) before = some after ∧
      patchText? (hunks.map Hunk.backward) after = some before := by
  have hexplains := explains_hunks (Text.linesWithEnds before.toList)
    (Text.linesWithEnds after.toList)
  have hlines (text : String) : ∀ l ∈ Text.linesWithEnds text.toList, '\n' ∉ l.dropLast :=
    fun l hl => not_mem_dropLast_linesOf List.not_mem_nil hl
  obtain ⟨read, hread, hforward, hbackward⟩ := hexplains.readHunks?
  refine ⟨read, ?_, hforward.patchText?_eq, hbackward.patchText?_eq⟩
  unfold unified unifiedParts
  dsimp only
  split
  · rename_i hempty
    rw [List.isEmpty_iff] at hempty
    rw [hempty] at hread
    obtain ⟨-, rfl⟩ := Prod.mk.inj (Option.some.inj hread)
    rfl
  · exact readPatch?_join hread hold hnew fun l hl =>
      hexplains.oneLine (hlines before) (hlines after) hl

/-- For every two texts, the difference is a text in which hunks are read that replace lines which
are those of the old text, at their places, by lines so that the new text results; and the same
hunks, read backwards, give the old text from the new one. -/
theorem difference_is_faithful_patch (before after : String) :
    ∃ text hunks, Documentation.difference (.text before) (.text after) = .ok text ∧
      readPatch? ⟨"old", ""⟩ ⟨"new", ""⟩ text = some hunks ∧
      patchText? (hunks.map Hunk.forward) before = some after ∧
      patchText? (hunks.map Hunk.backward) after = some before := by
  have hold : OneLine ("--- " ++ Side.label ⟨"old", ""⟩).toList := ⟨by decide, by decide⟩
  have hnew : OneLine ("+++ " ++ Side.label ⟨"new", ""⟩).toList := ⟨by decide, by decide⟩
  obtain ⟨hunks, hread, hforward, hbackward⟩ := unified_faithful hold hnew before after
  exact ⟨_, hunks, rfl, hread, hforward, hbackward⟩

end Scriptorium.Diff
