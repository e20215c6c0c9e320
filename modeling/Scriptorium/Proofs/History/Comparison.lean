import Scriptorium.History.Archive
import Scriptorium.Proofs.Diff.Identity
import Scriptorium.Proofs.Outcome
set_option autoImplicit false

/-!
# The two reports of a comparison

Two versions are compared twice: their difference is told by lines with their ends, and changes are
counted by lines without them.  The difference is empty exactly if the texts are equal, and nothing
is counted exactly if their lines are.  So the reports agree unless two texts differ in the ends of
their lines alone: that shows in the difference, and is counted nowhere.
-/

namespace Scriptorium.History

open Outcome

/-- Two texts are different and have the same lines, apart from the ends of these. -/
def OnlyEndsDiffer (before after : String) : Prop :=
  before ≠ after ∧ Text.lines before.toList = Text.lines after.toList

/-! ## Counting -/

/-- Lines that are the same give no changes. -/
theorem countChanges_of_lines_eq {before after : String}
    (h : Text.lines before.toList = Text.lines after.toList) :
    countChanges before after = .ok ⟨0, 0, 0⟩ := by
  have hkeep := (Diff.forall_keep_iff _ _).mpr h
  have hcounted : ∀ e ∈ Diff.edits (Text.lines before.toList) (Text.lines after.toList),
      ¬(e.action = .insert ∨ e.action = .delete) ∧ ¬e.action = .replace := by
    intro e he
    simp [hkeep e he]
  dsimp only [countChanges]
  rw [if_neg, List.filter_eq_nil_iff.mpr]
  · rfl
  · intro e he
    simpa using (hcounted e he).2
  · rw [List.any_eq_true]
    rintro ⟨e, he, hcount⟩
    exact (hcounted e he).1 (of_decide_eq_true hcount)

/-- If changes can be counted, there are none if and only if the lines are the same. -/
theorem changes_eq_zero_iff {before after : String} {changes : Changes}
    (h : countChanges before after = .ok changes) :
    changes = ⟨0, 0, 0⟩ ↔ Text.lines before.toList = Text.lines after.toList := by
  constructor
  · rintro rfl
    dsimp only [countChanges] at h
    split at h
    · cases h
    · rename_i hcounted
      have hreplaced := congrArg Changes.modified (Except.ok.inj h)
      rw [← Diff.forall_keep_iff]
      intro e he
      have hother : ¬(e.action = .insert ∨ e.action = .delete) := by
        intro hcount
        exact hcounted (List.any_eq_true.mpr ⟨e, he, decide_eq_true hcount⟩)
      have hreplace : ¬e.action = .replace := by
        intro hcount
        have hnone := List.eq_nil_of_length_eq_zero hreplaced
        exact List.filter_eq_nil_iff.mp hnone e he (decide_eq_true hcount)
      cases haction : e.action <;> simp_all
  · intro hlines
    rw [countChanges_of_lines_eq hlines] at h
    exact (Except.ok.inj h).symm

/-! ## Comparing -/

theorem textFor_eq_ok_iff {v : Value} {member s : String} :
    v.textFor member = .ok s ↔ v = .text s := by
  cases v <;> simp [Value.textFor]

/-- Versions can be compared if both are texts and their changes can be counted. -/
theorem compare_eq_ok_iff {old new : Version} {c : Comparison} :
    compare old new = .ok c ↔ ∃ before after changes, old.content = .text before ∧
      new.content = .text after ∧ countChanges before after = .ok changes ∧
      c = ⟨old, new, Diff.unified old.side new.side before after, changes⟩ := by
  simp only [compare, Version.text, bind_eq_ok_iff, pure_eq_ok_iff, textFor_eq_ok_iff]
  constructor
  · rintro ⟨before, hbefore, after, hafter, changes, hchanges, rfl⟩
    exact ⟨before, after, changes, hbefore, hafter, hchanges, rfl⟩
  · rintro ⟨before, after, changes, hbefore, hafter, hchanges, rfl⟩
    exact ⟨before, hbefore, after, hafter, changes, hchanges, rfl⟩

/-- A comparison of versions of a document compares the versions that are found. -/
theorem archive_compare_eq_ok_iff {archive : Archive} {document old new : String}
    {c : Comparison} :
    archive.compare document old new = .ok (.ok c) ↔
      ∃ a b, archive.version? document old = some a ∧ archive.version? document new = some b ∧
        compare a b = .ok c := by
  have hthere : ∀ {id : String} {a : Version}, archive.version? document id = some a →
      ∃ versions, archive.versions? document = some versions := by
    intro id a ha
    cases hversions : archive.versions? document with
    | none => simp [Archive.version?, Archive.versions, hversions] at ha
    | some versions => exact ⟨versions, rfl⟩
  constructor
  · intro h
    unfold Archive.compare at h
    split at h
    · cases h
    · split at h
      · rename_i a b ha hb
        obtain ⟨found, hcompare, hfound⟩ := map_eq_ok_iff.mp h
        obtain rfl := Except.ok.inj hfound
        exact ⟨a, b, ha, hb, hcompare⟩
      · cases h
  · rintro ⟨a, b, ha, hb, hcompare⟩
    obtain ⟨versions, hversions⟩ := hthere ha
    simp only [Archive.compare, hversions, ha, hb, hcompare]
    rfl

/-- Whenever two versions of a document can be compared, an empty difference comes with no counted
changes, and the two reports agree unless the texts of the versions differ in the ends of lines
alone. -/
theorem reports_agree_iff_not_onlyEndsDiffer {archive : Archive} {document old new : String}
    {c : Comparison} (h : archive.compare document old new = .ok (.ok c)) :
    ∃ before after, archive.version? document old = some c.old ∧ c.old.content = .text before ∧
      archive.version? document new = some c.new ∧ c.new.content = .text after ∧
      (c.diff = "" → c.changes = ⟨0, 0, 0⟩) ∧
      ((c.diff = "" ↔ c.changes = ⟨0, 0, 0⟩) ↔ ¬OnlyEndsDiffer before after) := by
  obtain ⟨a, b, ha, hb, hcompare⟩ := archive_compare_eq_ok_iff.mp h
  obtain ⟨before, after, changes, hbefore, hafter, hchanges, rfl⟩ := compare_eq_ok_iff.mp hcompare
  have hdiff := Diff.unified_eq_empty_iff a.side b.side before after
  have hcount := changes_eq_zero_iff hchanges
  have hlines : before = after → Text.lines before.toList = Text.lines after.toList := by
    rintro rfl
    rfl
  refine ⟨before, after, ha, hbefore, hb, hafter, ?_, ?_⟩
  · rw [hdiff, hcount]
    exact hlines
  · rw [hdiff, hcount]
    constructor
    · rintro hagree ⟨hdifferent, hsame⟩
      exact hdifferent (hagree.mpr hsame)
    · intro hends
      refine ⟨hlines, fun hsame => ?_⟩
      by_cases hequal : before = after
      · exact hequal
      · exact absurd ⟨hequal, hsame⟩ hends

/-! ### Two versions of a plan -/

/-- An archive with two versions of one document. -/
def twoVersions (before after : String) : Archive :=
  let first : Version := ⟨"1", .text before, .text "ann", ⟨0, none⟩, .text "", []⟩
  let second : Version := ⟨"2", .text after, .text "ann", ⟨0, none⟩, .text "", []⟩
  (Archive.create [] "plan" first).create "plan" second

/-- Two versions whose changes can be counted are compared. -/
theorem compare_twoVersions {before after : String} {changes : Changes}
    (h : countChanges before after = .ok changes) :
    ∃ c, (twoVersions before after).compare "plan" "1" "2" = .ok (.ok c) ∧
      c.old.content = .text before ∧ c.new.content = .text after ∧ c.changes = changes ∧
      (c.diff = "" ↔ before = after) :=
  ⟨_, archive_compare_eq_ok_iff.mpr ⟨_, _, rfl, rfl,
    compare_eq_ok_iff.mpr ⟨before, after, changes, rfl, rfl, h, rfl⟩⟩, rfl, rfl, rfl,
    Diff.unified_eq_empty_iff _ _ before after⟩

/-- A line that is replaced shows in both reports. -/
theorem replaced_line_reported_twice :
    ∃ c, (twoVersions "a\nb" "a\nc").compare "plan" "1" "2" = .ok (.ok c) ∧
      c.changes = ⟨0, 0, 1⟩ ∧ (c.diff = "" ↔ c.changes = ⟨0, 0, 0⟩) := by
  have hcount : countChanges "a\nb" "a\nc" = .ok ⟨0, 0, 1⟩ :=
    eq_ok_of_toOption (by decide +kernel)
  obtain ⟨c, hcompare, hold, hnew, hchanges, -⟩ := compare_twoVersions hcount
  obtain ⟨before, after, -, hbefore, -, hafter, -, hagree⟩ :=
    reports_agree_iff_not_onlyEndsDiffer hcompare
  obtain rfl := Value.text.inj (hbefore.symm.trans hold)
  obtain rfl := Value.text.inj (hafter.symm.trans hnew)
  refine ⟨c, hcompare, hchanges, hagree.mpr ?_⟩
  rintro ⟨-, hlines⟩
  exact absurd hlines (by decide +kernel)

/-- A line that gets an end is shown as changed, and no change is counted. -/
theorem added_line_end_not_counted :
    ∃ c, (twoVersions "a" "a\n").compare "plan" "1" "2" = .ok (.ok c) ∧
      c.diff ≠ "" ∧ c.changes = ⟨0, 0, 0⟩ := by
  have hcount : countChanges "a" "a\n" = .ok ⟨0, 0, 0⟩ :=
    countChanges_of_lines_eq (by decide +kernel)
  obtain ⟨c, hcompare, -, -, hchanges, hdiff⟩ := compare_twoVersions hcount
  exact ⟨c, hcompare, by simp [hdiff], hchanges⟩

end Scriptorium.History
