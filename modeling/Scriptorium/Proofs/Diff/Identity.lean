import Scriptorium.Documentation.Report
import Scriptorium.Proofs.Diff.Hunks
import Scriptorium.Proofs.Diff.Patch
set_option autoImplicit false

/-!
# Equal texts differ in nothing

A sequence that is compared with itself has one common block, which is all of it.  Frequent items
seed no block, so the search sees only the stretches of items between them.  At each item it
has seen the stretch that ends there on both sides at once, and no run that ends there or earlier is
longer than such a stretch.  As only a longer run wins and runs are tried from left to right, the
best block always has one place in both sequences (`Diagonal`), and then it grows over everything on
both sides.

Conversely two texts whose difference shows no hunk have the same lines, and lines keep their ends.
-/

namespace Scriptorium.Diff

variable {α : Type} [BEq α] [LawfulBEq α]

/-! ## Stretches between frequent items -/

/-- How many items in a row, up to the place `i`, are not frequent. -/
def stretch (xs : List α) : Nat → Nat
  | 0 => 0
  | i + 1 => if xs[i]?.any fun x => !isFrequent xs x then stretch xs i + 1 else 0

omit [LawfulBEq α] in
theorem stretch_succ {xs : List α} {i : Nat} {x : α} (hx : xs[i]? = some x) :
    stretch xs (i + 1) = if isFrequent xs x then 0 else stretch xs i + 1 := by
  cases hfrequent : isFrequent xs x <;> simp [stretch, hx, hfrequent]

omit [LawfulBEq α] in
/-- The places in two parts of a sequence are found one part after the other. -/
theorem placesFrom_append (x : α) (front rest : List α) (start : Nat) :
    placesFrom x (front ++ rest) start =
      placesFrom x front start ++ placesFrom x rest (start + front.length) := by
  induction front generalizing start with
  | nil => rfl
  | cons y front ih =>
      have hplace : start + 1 + front.length = start + (y :: front).length := by
        rw [List.length_cons, Nat.add_right_comm, Nat.add_assoc]
      simp only [List.cons_append, placesFrom, ih, hplace]
      split
      · rw [List.cons_append]
      · rfl

/-- The places of an item are earlier ones, its own place, and later ones. -/
theorem places_of_get? {xs : List α} {i : Nat} {x : α} (hx : xs[i]? = some x) :
    ∃ earlier later, placesFrom x xs 0 = earlier ++ i :: later ∧ ∀ j ∈ earlier, j < i := by
  obtain ⟨hi, hget⟩ := List.getElem?_eq_some_iff.mp hx
  have hsplit : xs.take i ++ x :: xs.drop (i + 1) = xs := by
    rw [← hget, List.getElem_cons_drop, List.take_append_drop]
  refine ⟨placesFrom x (xs.take i) 0, placesFrom x (xs.drop (i + 1)) (i + 1), ?_, ?_⟩
  · conv => lhs; rw [← hsplit, placesFrom_append]
    rw [placesFrom, if_pos BEq.rfl, List.length_take, Nat.min_eq_left (Nat.le_of_lt hi),
      Nat.zero_add]
  · intro j hj
    obtain ⟨-, hplace⟩ := get?_of_mem_placesFrom hj
    rw [Nat.sub_zero, List.getElem?_take] at hplace
    split at hplace
    · assumption
    · cases hplace

theorem mem_placesFrom_iff (x : α) (xs : List α) (j : Nat) :
    j ∈ placesFrom x xs 0 ↔ xs[j]? = some x := by
  constructor
  · intro hj
    exact (get?_of_mem_placesFrom hj).2
  · intro hx
    obtain ⟨earlier, later, hplaces, -⟩ := places_of_get? hx
    rw [hplaces]
    exact List.mem_append_right earlier List.mem_cons_self

/-! ## The search stays on the diagonal -/

theorem runBefore_nextRuns (w : Window) (runs : Runs) (places : List Nat) (j : Nat) :
    runBefore (nextRuns w runs places) (j + 1) =
      if j ∈ places ∧ w.rightStart ≤ j ∧ j < w.rightStop then runBefore runs j + 1 else 0 := by
  have hmem : j ∈ (places.filter fun k => w.rightStart ≤ k && k < w.rightStop) ↔
      j ∈ places ∧ w.rightStart ≤ j ∧ j < w.rightStop := by
    simp [List.mem_filter]
  simp only [runBefore, nextRuns, List.find?_map, Function.comp_def, ← hmem]
  generalize places.filter (fun k => w.rightStart ≤ k && k < w.rightStop) = kept
  cases hfind : kept.find? fun k => k == j with
  | none =>
      have hnot : j ∉ kept := fun hj => List.find?_eq_none.mp hfind j hj BEq.rfl
      simp [hnot]
  | some k =>
      have hplace : (k == j) = true := List.find?_some (p := fun k => k == j) hfind
      obtain rfl : k = j := eq_of_beq hplace
      simp [List.mem_of_find?_eq_some hfind]

/-- Runs that are not longer than the best block do not win. -/
theorem improve_eq_self {i : Nat} {best : Block} {runs : Runs}
    (h : ∀ run ∈ runs, run.2 ≤ best.size) : improve i best runs = best := by
  induction runs with
  | nil => rfl
  | cons run rest ih =>
      obtain ⟨hrun, hrest⟩ := List.forall_mem_cons.mp h
      rw [improve, List.foldl_cons, if_neg (Nat.not_lt.mpr hrun)]
      exact ih hrest

/-- If earlier runs are not longer than the best block, and later ones not longer than a run, that
run alone may win. -/
theorem improve_middle {i j size : Nat} {best : Block} {front back : Runs}
    (hfront : ∀ run ∈ front, run.2 ≤ best.size) (hback : ∀ run ∈ back, run.2 ≤ size) :
    improve i best (front ++ (j, size) :: back) =
      if best.size < size then ⟨i + 1 - size, j + 1 - size, size⟩ else best := by
  have hsplit : improve i best (front ++ (j, size) :: back) =
      improve i (if (improve i best front).size < size then ⟨i + 1 - size, j + 1 - size, size⟩
        else improve i best front) back := by
    rw [improve, List.foldl_append, List.foldl_cons]
    rfl
  rw [hsplit, improve_eq_self hfront]
  apply improve_eq_self
  intro run hrun
  have hle := hback run hrun
  split
  · exact hle
  · omega

/-- All of a sequence, on both sides. -/
def Window.whole (xs : List α) : Window := ⟨0, xs.length, 0, xs.length⟩

/-- How far the search has come before item `i` of a sequence that is compared with itself: the run
that ends there on both sides is the stretch before the item, no other run is longer than the
stretches at its two ends, and the best block has one place in both sequences and is as long as
any stretch so far. -/
structure Diagonal (xs : List α) (i : Nat) (runs : Runs) (best : Block) : Prop where
  own : runBefore runs i = stretch xs i
  others : ∀ j, runBefore runs j ≤ stretch xs j ∧ runBefore runs j ≤ stretch xs i
  place : best.left = best.right
  longest : ∀ k, k ≤ i → stretch xs k ≤ best.size

omit [LawfulBEq α] in
theorem Diagonal.start (xs : List α) : Diagonal xs 0 [] ⟨0, 0, 0⟩ where
  own := rfl
  others j := by cases j <;> exact ⟨Nat.zero_le _, Nat.le_refl _⟩
  place := rfl
  longest k hk := by
    obtain rfl := Nat.le_zero.mp hk
    exact Nat.le_refl _

section Step

variable {xs : List α} {i : Nat} {runs : Runs} {best : Block} (h : Diagonal xs i runs best) {x : α}
  (hx : xs[i]? = some x)

include h hx

omit [LawfulBEq α] in
/-- A frequent item ends all runs. -/
theorem Diagonal.next_frequent (hfrequent : isFrequent xs x = true) :
    Diagonal xs (i + 1) [] best := by
  have hstretch : stretch xs (i + 1) = 0 := by rw [stretch_succ hx, hfrequent, if_pos rfl]
  have hnone : ∀ j, runBefore [] j = 0 := by
    intro j
    cases j <;> rfl
  refine ⟨?_, ?_, h.place, ?_⟩
  · rw [hnone, hstretch]
  · intro j
    rw [hnone]
    exact ⟨Nat.zero_le _, Nat.zero_le _⟩
  · intro k hk
    rcases Nat.le_succ_iff.mp hk with hle | rfl
    · exact h.longest k hle
    · rw [hstretch]
      exact Nat.zero_le _

/-- Of the runs that end at another item only the one at its own place may be longer than the best
block. -/
theorem Diagonal.next_seed (hseed : isFrequent xs x = false) :
    let later := nextRuns (.whole xs) runs (placesFrom x xs 0)
    Diagonal xs (i + 1) later (improve i best later) := by
  intro later
  have hstretch : ∀ j, xs[j]? = some x → stretch xs (j + 1) = stretch xs j + 1 := by
    intro j hj
    rw [stretch_succ hj, hseed, if_neg Bool.false_ne_true]
  have hruns : later = (placesFrom x xs 0).map fun j => (j, runBefore runs j + 1) := by
    have hinside : ∀ j ∈ placesFrom x xs 0, j < xs.length := by
      intro j hj
      exact (List.getElem?_eq_some_iff.mp ((mem_placesFrom_iff x xs j).mp hj)).1
    simp only [later, nextRuns, Window.whole, Nat.zero_le, decide_true, Bool.true_and]
    rw [List.filter_eq_self.mpr]
    intro j hj
    exact decide_eq_true (hinside j hj)
  have hsize : ∀ j, xs[j]? = some x → runBefore runs j + 1 ≤ stretch xs (j + 1) ∧
      runBefore runs j + 1 ≤ stretch xs (i + 1) := by
    intro j hj
    have hbefore := h.others j
    rw [hstretch j hj, hstretch i hx]
    omega
  have hbest : improve i best later = if best.size < stretch xs (i + 1) then
      ⟨i + 1 - stretch xs (i + 1), i + 1 - stretch xs (i + 1), stretch xs (i + 1)⟩ else best := by
    -- the runs are tried from left to right, so the one at the own place comes before longer ones
    obtain ⟨earlier, behind, hplaces, hearlier⟩ := places_of_get? hx
    have hitem : ∀ j ∈ earlier ++ i :: behind, xs[j]? = some x := by
      intro j hj
      rwa [← hplaces, mem_placesFrom_iff] at hj
    rw [hruns, hplaces, List.map_append, List.map_cons, h.own, ← hstretch i hx]
    apply improve_middle
    · intro run hrun
      obtain ⟨j, hj, rfl⟩ := List.mem_map.mp hrun
      have hlonger := (hsize j (hitem j (List.mem_append_left _ hj))).1
      exact Nat.le_trans hlonger (h.longest (j + 1) (hearlier j hj))
    · intro run hrun
      obtain ⟨j, hj, rfl⟩ := List.mem_map.mp hrun
      exact (hsize j (hitem j (List.mem_append_right _ (List.mem_cons_of_mem i hj)))).2
  refine ⟨?_, ?_, ?_, ?_⟩
  · have hi : i ∈ placesFrom x xs 0 := (mem_placesFrom_iff x xs i).mpr hx
    have hlength := (List.getElem?_eq_some_iff.mp hx).1
    rw [runBefore_nextRuns, if_pos ⟨hi, Nat.zero_le _, hlength⟩, h.own, hstretch i hx]
  · intro j
    cases j with
    | zero => exact ⟨Nat.zero_le _, Nat.zero_le _⟩
    | succ j =>
        rw [runBefore_nextRuns]
        split
        · rename_i hj
          exact hsize j ((mem_placesFrom_iff x xs j).mp hj.1)
        · exact ⟨Nat.zero_le _, Nat.zero_le _⟩
  · rw [hbest]
    split
    · rfl
    · exact h.place
  · have hgrown : best.size ≤ (improve i best later).size ∧
        stretch xs (i + 1) ≤ (improve i best later).size := by
      rw [hbest]
      split
      · dsimp only
        omega
      · omega
    intro k hk
    rcases Nat.le_succ_iff.mp hk with hle | rfl
    · exact Nat.le_trans (h.longest k hle) hgrown.1
    · exact hgrown.2

end Step

/-- The search ends on the diagonal. -/
theorem Diagonal.longestRun {xs : List α} (i : Nat) {runs : Runs} {best : Block}
    (h : Diagonal xs i runs best) :
    let found := Diff.longestRun (.whole xs) ((seeds xs xs).drop i) i runs best
    found.left = found.right := by
  by_cases hi : i < xs.length
  · have hx : xs[i]? = some xs[i] := List.getElem?_eq_getElem hi
    have hrow : (seeds xs xs).drop i =
        (if isFrequent xs xs[i] then [] else placesFrom xs[i] xs 0) ::
          (seeds xs xs).drop (i + 1) := by
      rw [List.drop_eq_getElem_cons (by simpa [seeds] using hi)]
      simp [seeds]
    rw [hrow]
    dsimp only [Diff.longestRun]
    apply Diagonal.longestRun (i + 1)
    cases hfrequent : isFrequent xs xs[i] with
    | true => exact h.next_frequent hx hfrequent
    | false => exact h.next_seed hx hfrequent
  · have hrows : (seeds xs xs).drop i = [] := by
      rw [List.drop_eq_nil_iff]
      simpa [seeds] using hi
    rw [hrows]
    exact h.place
termination_by xs.length - i

/-! ## One block -/

theorem equalBefore_self (xs : List α) : equalBefore xs xs = xs.length := by
  induction xs with
  | nil => rfl
  | cons x rest ih => rw [equalBefore, if_pos BEq.rfl, ih, List.length_cons]

/-- A block with one place in both sequences grows over all of them. -/
theorem grow_self {xs : List α} {b : Block} (hplace : b.left = b.right)
    (hstop : b.left + b.size ≤ xs.length) : grow xs xs (.whole xs) b = ⟨0, 0, xs.length⟩ := by
  simp only [grow, Window.whole, ← hplace, equalBefore_self, List.drop_zero, List.length_reverse,
    List.length_drop, List.length_take, List.take_length, Block.mk.injEq]
  omega

theorem longestBlock_self (xs : List α) :
    longestBlock xs xs (seeds xs xs) (.whole xs) = ⟨0, 0, xs.length⟩ := by
  have hrows : ((seeds xs xs).take xs.length).drop 0 = (seeds xs xs).drop 0 := by
    rw [List.take_of_length_le]
    simp [seeds]
  have hplace := (Diagonal.start xs).longestRun 0
  have hwithin : (Window.whole xs).Within xs xs := ⟨Nat.le_refl _, Nat.le_refl _⟩
  have hfits := fits_longestRun_seeds hwithin (Nat.zero_le _) (Nat.zero_le _)
  dsimp only [Window.whole] at hfits hplace
  rw [hrows] at hfits
  dsimp only [longestBlock, Window.whole]
  rw [hrows]
  exact grow_self hplace hfits.leftStop

theorem blocks_self (xs : List α) :
    blocks xs xs = if xs.length = 0 then [] else [⟨0, 0, xs.length⟩] := by
  have hblock : longestBlock xs xs (seeds xs xs) ⟨0, xs.length, 0, xs.length⟩ =
      ⟨0, 0, xs.length⟩ := longestBlock_self xs
  simp only [blocks, blocksIn, hblock, Nat.zero_add, Nat.lt_irrefl, decide_false, Bool.and_self,
    Bool.false_eq_true, if_false, List.nil_append, List.append_nil]
  split <;> simp [joinBlocks]

/-- All that is done to turn a sequence into itself is to keep it. -/
theorem edits_self (xs : List α) :
    edits xs xs = if xs.length = 0 then [] else [⟨.keep, 0, xs.length, 0, xs.length⟩] := by
  rw [edits, blocks_self]
  split
  · rename_i hempty
    simp [editsFrom, gap, hempty]
  · rename_i hfull
    simp [editsFrom, gap, hfull]

omit [BEq α] [LawfulBEq α] in
/-- Edits that keep everything cover equal items. -/
theorem Covers.same_of_keep {left right : List α} {i j p q : Nat} {edits : List Edit}
    (h : Covers left right i j edits p q) (hkeep : ∀ e ∈ edits, e.action = .keep) :
    Same left right i j p q := by
  induction h with
  | nil => exact .refl _ _
  | cons valid _ ih =>
      rw [List.forall_mem_cons] at hkeep
      exact (valid.kept hkeep.1).trans (ih hkeep.2)

/-- Nothing but keeping is done if and only if nothing has changed. -/
theorem forall_keep_iff (left right : List α) :
    (∀ e ∈ edits left right, e.action = .keep) ↔ left = right := by
  constructor
  · intro hkeep
    have hsame := (covers_edits left right).same_of_keep hkeep
    simpa using hsame.drop_eq (by simp)
  · rintro rfl
    rw [edits_self]
    split <;> simp

/-- An edit that keeps everything is cut down and then left out. -/
theorem hunks_keep {e : Edit} (hkeep : e.action = .keep) : hunks [e] = [] := by
  have hcut : (keepHead (keepTail e)).action = .keep ∧
      (keepHead (keepTail e)).leftStop - (keepHead (keepTail e)).leftStart ≤ contextLines := by
    simp only [keepHead, keepTail, hkeep, if_true, true_and]
    omega
  have htrimmed : mapLast keepHead (mapFirst keepTail [e]) = [keepHead (keepTail e)] := rfl
  rw [hunks, htrimmed]
  generalize keepHead (keepTail e) = cut at hcut
  obtain ⟨haction, hshort⟩ := hcut
  have hwhole : ¬ 2 * contextLines < cut.leftStop - cut.leftStart := by
    unfold contextLines at hshort ⊢
    omega
  simp [divide, haction, hwhole, showsChange]

/-- There are hunks if and only if something has changed. -/
theorem hunks_edits_eq_nil_iff (left right : List α) :
    hunks (edits left right) = [] ↔ left = right := by
  constructor
  · intro hnone
    have hexplains := explains_hunks left right
    rw [hnone] at hexplains
    cases hexplains with
    | nil equal => exact equal
  · rintro rfl
    rw [edits_self]
    split
    · rfl
    · exact hunks_keep rfl

/-! ## Texts -/

theorem linesWithEnds_inj {before after : String} :
    Text.linesWithEnds before.toList = Text.linesWithEnds after.toList ↔ before = after := by
  constructor
  · intro hlines
    have htext := congrArg List.flatten hlines
    rw [Text.linesWithEnds_flatten, Text.linesWithEnds_flatten] at htext
    exact String.toList_inj.mp htext
  · rintro rfl
    rfl

/-- The difference of two texts is empty if and only if they are equal, whatever their sides are
called. -/
theorem unified_eq_empty_iff (old new : Side) (before after : String) :
    unified old new before after = "" ↔ before = after := by
  have hchanged : hunks (edits (Text.linesWithEnds before.toList)
      (Text.linesWithEnds after.toList)) = [] ↔ before = after :=
    (hunks_edits_eq_nil_iff _ _).trans linesWithEnds_inj
  rw [← hchanged]
  dsimp only [unified, unifiedParts]
  cases hshown : hunks (edits (Text.linesWithEnds before.toList)
      (Text.linesWithEnds after.toList)) with
  | nil => simp
  | cons hunk rest =>
      have hlabel : ("--- " ++ old.label).toList ≠ [] := by simp
      constructor
      · intro hempty
        exact absurd hempty (join_ne_empty hlabel _)
      · intro hnone
        cases hnone

/-- For every two texts: their difference can be told, and it is the empty text if and only if
they are equal. -/
theorem difference_empty_iff_equal (before after : String) :
    ∃ text, Documentation.difference (.text before) (.text after) = .ok text ∧
      (text = "" ↔ before = after) :=
  ⟨_, rfl, unified_eq_empty_iff ⟨"old", ""⟩ ⟨"new", ""⟩ before after⟩

end Scriptorium.Diff
