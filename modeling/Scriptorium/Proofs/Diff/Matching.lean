import Scriptorium.Diff.Matching
set_option autoImplicit false

/-!
# Common blocks are common

Every block that the search gives stands for equal items of both sequences, and the blocks stand in
order in both of them: `Chain` says so, and `chain_blocks` is the result.  The search keeps runs of
equal items that end at the item it has reached; each of them is a block that matches, and each
block it tries is one of them, grown over equal items on both sides.
-/

namespace Scriptorium.Diff

variable {α : Type} {left right : List α}

/-! ## Blocks that match -/

/-- The items of a block are equal, one by one. -/
def Block.Matches (left right : List α) (b : Block) : Prop :=
  ∀ k, k < b.size → ∃ x, left[b.left + k]? = some x ∧ right[b.right + k]? = some x

/-- A block of equal items lies inside a window. -/
structure Block.Fits (left right : List α) (w : Window) (b : Block) : Prop where
  equal : b.Matches left right
  leftStart : w.leftStart ≤ b.left
  leftStop : b.left + b.size ≤ w.leftStop
  rightStart : w.rightStart ≤ b.right
  rightStop : b.right + b.size ≤ w.rightStop

theorem Block.matches_empty (i j : Nat) : Block.Matches left right ⟨i, j, 0⟩ :=
  fun _ hk => absurd hk (Nat.not_lt_zero _)

theorem Block.Matches.extend {b : Block} {x : α} (h : b.Matches left right)
    (hleft : left[b.left + b.size]? = some x) (hright : right[b.right + b.size]? = some x) :
    Block.Matches left right ⟨b.left, b.right, b.size + 1⟩ := by
  intro k hk
  rcases Nat.lt_succ_iff_lt_or_eq.mp hk with hlt | rfl
  · exact h k hlt
  · exact ⟨x, hleft, hright⟩

/-- Two blocks without a gap between them are one. -/
theorem Block.Matches.join {a b : Block} (ha : a.Matches left right) (hb : b.Matches left right)
    (hleft : a.left + a.size = b.left) (hright : a.right + a.size = b.right) :
    Block.Matches left right ⟨a.left, a.right, a.size + b.size⟩ := by
  intro k hk
  by_cases hka : k < a.size
  · exact ha k hka
  · obtain ⟨x, hx, hy⟩ := hb (k - a.size) (by simp only at hk; omega)
    refine ⟨x, ?_, ?_⟩
    · rw [← hx]
      congr 1
      simp only
      omega
    · rw [← hy]
      congr 1
      simp only
      omega

/-! ## Seeds -/

section Search

variable [BEq α] [LawfulBEq α]

theorem get?_of_mem_placesFrom {x : α} {items : List α} {start j : Nat}
    (h : j ∈ placesFrom x items start) : start ≤ j ∧ items[j - start]? = some x := by
  induction items generalizing start with
  | nil => simp [placesFrom] at h
  | cons y rest ih =>
      unfold placesFrom at h
      have hlater : j ∈ placesFrom x rest (start + 1) →
          start ≤ j ∧ (y :: rest)[j - start]? = some x := by
        intro hj
        obtain ⟨hle, hget⟩ := ih hj
        refine ⟨by omega, ?_⟩
        rw [show j - start = (j - (start + 1)) + 1 by omega, List.getElem?_cons_succ]
        exact hget
      split at h
      · rename_i heq
        rcases List.mem_cons.mp h with rfl | hj
        · simp [eq_of_beq heq]
        · exact hlater hj
      · exact hlater h

/-- What a seed names are places of equal items. -/
theorem equal_of_mem_seeds {i j : Nat} {places : List Nat}
    (h : (seeds left right)[i]? = some places) (hj : j ∈ places) :
    ∃ x, left[i]? = some x ∧ right[j]? = some x := by
  simp only [seeds, List.getElem?_map, Option.map_eq_some_iff] at h
  obtain ⟨x, hx, rfl⟩ := h
  split at hj
  · simp at hj
  · exact ⟨x, hx, by simpa using (get?_of_mem_placesFrom hj).2⟩

end Search

/-! ## Runs -/

section Runs

variable {w : Window} {i : Nat}

/-- Every run is the size of a block that ends before the item `i` and with its own place. -/
def RunsBefore (left right : List α) (w : Window) (i : Nat) (runs : Runs) : Prop :=
  ∀ run ∈ runs, ∃ b : Block, b.Fits left right w ∧ b.size = run.2 ∧ b.left + b.size = i ∧
    b.right + b.size = run.1 + 1

/-- The run before a place is that of a block, perhaps an empty one. -/
theorem RunsBefore.runBefore {runs : Runs} (h : RunsBefore left right w i runs) {j : Nat}
    (hi : w.leftStart ≤ i ∧ i ≤ w.leftStop) (hj : w.rightStart ≤ j ∧ j ≤ w.rightStop) :
    ∃ b : Block, b.Fits left right w ∧ b.size = Diff.runBefore runs j ∧ b.left + b.size = i ∧
      b.right + b.size = j := by
  have hempty : ∃ b : Block, b.Fits left right w ∧ b.size = 0 ∧ b.left + b.size = i ∧
      b.right + b.size = j :=
    ⟨⟨i, j, 0⟩, ⟨Block.matches_empty i j, hi.1, hi.2, hj.1, hj.2⟩, rfl, rfl, rfl⟩
  cases j with
  | zero => exact hempty
  | succ k =>
      dsimp only [Diff.runBefore]
      cases hfind : runs.find? (·.1 == k) with
      | none => exact hempty
      | some run =>
          have hplace : run.1 = k := by simpa using List.find?_some hfind
          obtain ⟨b, hfits, hsize, hleft, hright⟩ := h run (List.mem_of_find?_eq_some hfind)
          exact ⟨b, hfits, hsize, hleft, hplace ▸ hright⟩

/-- The runs at the next item are sizes of blocks again. -/
theorem RunsBefore.nextRuns {runs : Runs} (h : RunsBefore left right w i runs)
    (hi : w.leftStart ≤ i ∧ i < w.leftStop) {places : List Nat}
    (hplaces : ∀ j ∈ places, ∃ x, left[i]? = some x ∧ right[j]? = some x) :
    RunsBefore left right w (i + 1) (Diff.nextRuns w runs places) := by
  intro run hrun
  obtain ⟨j, hj, rfl⟩ := List.mem_map.mp hrun
  rw [List.mem_filter, Bool.and_eq_true, decide_eq_true_iff, decide_eq_true_iff] at hj
  obtain ⟨hmem, hstart, hstop⟩ := hj
  obtain ⟨b, hfits, hsize, hleft, hright⟩ := h.runBefore ⟨hi.1, by omega⟩ ⟨hstart, by omega⟩
  obtain ⟨x, hx, hy⟩ := hplaces j hmem
  refine ⟨⟨b.left, b.right, b.size + 1⟩, ⟨?_, hfits.leftStart, ?_, hfits.rightStart, ?_⟩, ?_, ?_,
    ?_⟩
  · exact hfits.equal.extend (hleft ▸ hx) (hright ▸ hy)
  all_goals simp only
  all_goals omega

/-- The best block stays one that fits. -/
theorem fits_improve {runs : Runs} (h : RunsBefore left right w (i + 1) runs) {best : Block}
    (hbest : best.Fits left right w) : (improve i best runs).Fits left right w := by
  induction runs generalizing best with
  | nil => exact hbest
  | cons run rest ih =>
      refine ih (fun other hother => h other (List.mem_cons_of_mem _ hother)) ?_
      dsimp only
      split
      · -- The block that is taken is the one whose size the run is.
        obtain ⟨b, hfits, hsize, hleft, hright⟩ := h run List.mem_cons_self
        have hb : b = ⟨i + 1 - run.2, run.1 + 1 - run.2, run.2⟩ := by
          obtain ⟨bl, br, bs⟩ := b
          simp only at hsize hleft hright
          rw [Block.mk.injEq]
          omega
        exact hb ▸ hfits
      · exact hbest

/-- Walking on through the items, the best block stays one that fits. -/
theorem fits_longestRun {rows : List (List Nat)} {runs : Runs} {best : Block}
    (hruns : RunsBefore left right w i runs) (hbest : best.Fits left right w)
    (hi : w.leftStart ≤ i ∧ i + rows.length ≤ w.leftStop)
    (hrows : ∀ k places, rows[k]? = some places → ∀ j ∈ places,
      ∃ x, left[i + k]? = some x ∧ right[j]? = some x) :
    (longestRun w rows i runs best).Fits left right w := by
  induction rows generalizing i runs best with
  | nil => exact hbest
  | cons places rest ih =>
      rw [List.length_cons] at hi
      have hnext := hruns.nextRuns ⟨hi.1, by omega⟩ (hrows 0 places rfl)
      refine ih hnext (fits_improve hnext hbest) ⟨by omega, by omega⟩ ?_
      intro k later hlater j hj
      have hrow := hrows (k + 1) later hlater j hj
      rwa [show i + (k + 1) = i + 1 + k by omega] at hrow

end Runs

/-! ## Growing -/

/-- A window of both sequences. -/
structure Window.Within (left right : List α) (w : Window) : Prop where
  leftStop : w.leftStop ≤ left.length
  rightStop : w.rightStop ≤ right.length

theorem get?_slice {xs : List α} {start stop k : Nat} {x : α}
    (h : ((xs.take stop).drop start)[k]? = some x) :
    start + k < stop ∧ xs[start + k]? = some x := by
  rw [List.getElem?_drop, List.getElem?_take] at h
  split at h
  · exact ⟨by assumption, h⟩
  · simp at h

/-- The same, counted from the end of a part. -/
theorem get?_reverse_slice {xs : List α} {start stop k : Nat} {x : α} (hstop : stop ≤ xs.length)
    (h : ((xs.take stop).drop start).reverse[k]? = some x) :
    start + k < stop ∧ xs[stop - 1 - k]? = some x := by
  obtain ⟨hk, -⟩ := List.getElem?_eq_some_iff.mp h
  have hlength : ((xs.take stop).drop start).length = stop - start := by
    simp [Nat.min_eq_left hstop]
  rw [List.length_reverse, hlength] at hk
  rw [List.getElem?_reverse (by omega), hlength] at h
  obtain ⟨-, hget⟩ := get?_slice h
  rw [show start + (stop - start - 1 - k) = stop - 1 - k by omega] at hget
  exact ⟨by omega, hget⟩

section Grow

variable [BEq α] [LawfulBEq α]

/-- The items that are counted as equal are. -/
theorem get?_of_lt_equalBefore {xs ys : List α} {k : Nat} (h : k < equalBefore xs ys) :
    ∃ x, xs[k]? = some x ∧ ys[k]? = some x := by
  induction xs generalizing ys k with
  | nil => simp [equalBefore] at h
  | cons x rest ih =>
      cases ys with
      | nil => simp [equalBefore] at h
      | cons y rest' =>
          unfold equalBefore at h
          split at h
          · rename_i heq
            cases k with
            | zero => exact ⟨x, rfl, by simp [eq_of_beq heq]⟩
            | succ k => exact ih (by omega)
          · simp at h

/-- The items counted back from two places are a block before them. -/
theorem equalBefore_back {i j start start' n : Nat} (hi : start ≤ i ∧ i ≤ left.length)
    (hj : start' ≤ j ∧ j ≤ right.length)
    (hn : equalBefore ((left.take i).drop start).reverse ((right.take j).drop start').reverse = n) :
    start + n ≤ i ∧ start' + n ≤ j ∧ Block.Matches left right ⟨i - n, j - n, n⟩ := by
  have hitem : ∀ k, k < n → start + k < i ∧ start' + k < j ∧
      ∃ x, left[i - 1 - k]? = some x ∧ right[j - 1 - k]? = some x := by
    intro k hk
    obtain ⟨x, hx, hy⟩ := get?_of_lt_equalBefore (hn ▸ hk)
    obtain ⟨hki, hxi⟩ := get?_reverse_slice hi.2 hx
    obtain ⟨hkj, hxj⟩ := get?_reverse_slice hj.2 hy
    exact ⟨hki, hkj, x, hxi, hxj⟩
  have hbounds : start + n ≤ i ∧ start' + n ≤ j := by
    cases n with
    | zero => exact ⟨hi.1, hj.1⟩
    | succ n =>
        obtain ⟨hl, hr, -⟩ := hitem n (Nat.lt_succ_self n)
        omega
  refine ⟨hbounds.1, hbounds.2, ?_⟩
  intro k hk
  simp only at hk ⊢
  obtain ⟨-, -, hx⟩ := hitem (n - 1 - k) (by omega)
  rwa [show i - 1 - (n - 1 - k) = i - n + k by omega,
    show j - 1 - (n - 1 - k) = j - n + k by omega] at hx

/-- The items counted on from two places are a block behind them. -/
theorem equalBefore_ahead {i j stop stop' n : Nat} (hi : i ≤ stop) (hj : j ≤ stop')
    (hn : equalBefore ((left.take stop).drop i) ((right.take stop').drop j) = n) :
    i + n ≤ stop ∧ j + n ≤ stop' ∧ Block.Matches left right ⟨i, j, n⟩ := by
  have hitem : ∀ k, k < n → i + k < stop ∧ j + k < stop' ∧
      ∃ x, left[i + k]? = some x ∧ right[j + k]? = some x := by
    intro k hk
    obtain ⟨x, hx, hy⟩ := get?_of_lt_equalBefore (hn ▸ hk)
    obtain ⟨hki, hxi⟩ := get?_slice hx
    obtain ⟨hkj, hxj⟩ := get?_slice hy
    exact ⟨hki, hkj, x, hxi, hxj⟩
  have hbounds : i + n ≤ stop ∧ j + n ≤ stop' := by
    cases n with
    | zero => exact ⟨hi, hj⟩
    | succ n =>
        obtain ⟨hl, hr, -⟩ := hitem n (Nat.lt_succ_self n)
        omega
  exact ⟨hbounds.1, hbounds.2, fun k hk => (hitem k hk).2.2⟩

/-- A block that has grown still fits. -/
theorem Block.Fits.grow {w : Window} (hw : w.Within left right) {b : Block}
    (h : b.Fits left right w) : (Diff.grow left right w b).Fits left right w := by
  obtain ⟨hequal, hls, hle, hrs, hre⟩ := h
  obtain ⟨hwl, hwr⟩ := hw
  dsimp only [Diff.grow]
  generalize hback : equalBefore ((left.take b.left).drop w.leftStart).reverse
    ((right.take b.right).drop w.rightStart).reverse = back
  generalize hahead : equalBefore ((left.take w.leftStop).drop (b.left + b.size))
    ((right.take w.rightStop).drop (b.right + b.size)) = ahead
  obtain ⟨hlb, hrb, hfront⟩ := equalBefore_back ⟨hls, by omega⟩ ⟨hrs, by omega⟩ hback
  obtain ⟨hla, hra, hrest⟩ := equalBefore_ahead hle hre hahead
  have hjoined := (hfront.join hequal (by simp only; omega) (by simp only; omega)).join hrest
    (by simp only; omega) (by simp only; omega)
  refine ⟨?_, ?_, ?_, ?_, ?_⟩
  · rwa [Nat.add_comm b.size back]
  all_goals simp only
  all_goals omega

/-- The longest run inside a window fits. -/
theorem fits_longestRun_seeds {w : Window} (hw : w.Within left right)
    (hl : w.leftStart ≤ w.leftStop) (hr : w.rightStart ≤ w.rightStop) :
    (longestRun w (((seeds left right).take w.leftStop).drop w.leftStart) w.leftStart []
      ⟨w.leftStart, w.rightStart, 0⟩).Fits left right w := by
  refine fits_longestRun (fun run hrun => absurd hrun List.not_mem_nil)
    ⟨Block.matches_empty _ _, Nat.le_refl _, hl, Nat.le_refl _, hr⟩ ?_ ?_
  · have hseeds : (seeds left right).length = left.length := by simp [seeds]
    have := hw.leftStop
    simp only [List.length_drop, List.length_take, hseeds]
    omega
  · intro k places hplaces j hj
    exact equal_of_mem_seeds (get?_slice hplaces).2 hj

/-- The block that a window is divided at fits. -/
theorem fits_longestBlock {w : Window} (hw : w.Within left right)
    (hl : w.leftStart ≤ w.leftStop) (hr : w.rightStart ≤ w.rightStop) :
    (longestBlock left right (seeds left right) w).Fits left right w :=
  Block.Fits.grow hw (fits_longestRun_seeds hw hl hr)

end Grow

/-! ## Chains of blocks -/

/-- Blocks of equal items that stand in order in both sequences, from `i` and `j` up to `p` and
`q`. -/
inductive Chain (left right : List α) : Nat → Nat → List Block → Nat → Nat → Prop where
  | nil {i j p q : Nat} (hleft : i ≤ p) (hright : j ≤ q) : Chain left right i j [] p q
  | cons {i j p q : Nat} {b : Block} {rest : List Block} (hleft : i ≤ b.left)
      (hright : j ≤ b.right) (equal : b.Matches left right)
      (htail : Chain left right (b.left + b.size) (b.right + b.size) rest p q) :
      Chain left right i j (b :: rest) p q

theorem Chain.weaken {i j i' j' p q : Nat} {blocks : List Block}
    (h : Chain left right i j blocks p q) (hleft : i' ≤ i) (hright : j' ≤ j) :
    Chain left right i' j' blocks p q := by
  cases h with
  | nil hl hr => exact .nil (Nat.le_trans hleft hl) (Nat.le_trans hright hr)
  | cons hl hr equal htail =>
      exact .cons (Nat.le_trans hleft hl) (Nat.le_trans hright hr) equal htail

theorem Chain.append {i j m n p q : Nat} {front rest : List Block}
    (hfront : Chain left right i j front m n) (hrest : Chain left right m n rest p q) :
    Chain left right i j (front ++ rest) p q := by
  induction hfront with
  | nil hl hr => exact hrest.weaken hl hr
  | cons hl hr equal _ ih => exact .cons hl hr equal (ih hrest)

/-- Joining blocks keeps the chain. -/
theorem Chain.joinBlocks {i j p q : Nat} {blocks : List Block}
    (h : Chain left right i j blocks p q) : Chain left right i j (Diff.joinBlocks blocks) p q := by
  fun_induction Diff.joinBlocks blocks generalizing i j with
  | case1 a b rest hgap ih =>
      cases h with
      | cons hl hr ha htail =>
          cases htail with
          | cons _ _ hb htail =>
              refine ih (.cons hl hr (ha.join hb hgap.1 hgap.2) ?_)
              rw [← hgap.1, ← hgap.2] at htail
              simpa only [Nat.add_assoc] using htail
  | case2 a b rest hgap ih =>
      cases h with
      | cons hl hr ha htail => exact .cons hl hr ha (ih htail)
  | case3 blocks hshort => exact h

section Blocks

variable [BEq α] [LawfulBEq α]

/-- The blocks inside a window are a chain through it. -/
theorem chain_blocksIn (fuel : Nat) {w : Window} (hw : w.Within left right)
    (hl : w.leftStart ≤ w.leftStop) (hr : w.rightStart ≤ w.rightStop) :
    Chain left right w.leftStart w.rightStart (blocksIn left right (seeds left right) fuel w)
      w.leftStop w.rightStop := by
  induction fuel generalizing w with
  | zero => exact .nil hl hr
  | succ fuel ih =>
      have hfits := fits_longestBlock hw hl hr
      unfold blocksIn
      generalize longestBlock left right (seeds left right) w = b at hfits ⊢
      dsimp only
      split
      · exact .nil hl hr
      · have hwl := hw.leftStop
        have hwr := hw.rightStop
        have hle := hfits.leftStop
        have hre := hfits.rightStop
        refine Chain.append (m := b.left + b.size) (n := b.right + b.size) (Chain.append
          (m := b.left) (n := b.right) ?_ ?_) ?_
        · split
          · exact ih (w := ⟨w.leftStart, b.left, w.rightStart, b.right⟩)
              ⟨by simp only; omega, by simp only; omega⟩ hfits.leftStart hfits.rightStart
          · exact .nil hfits.leftStart hfits.rightStart
        · exact .cons (Nat.le_refl _) (Nat.le_refl _) hfits.equal
            (.nil (Nat.le_refl _) (Nat.le_refl _))
        · split
          · exact ih (w := ⟨b.left + b.size, w.leftStop, b.right + b.size, w.rightStop⟩)
              ⟨hwl, hwr⟩ hle hre
          · exact .nil hle hre

/-- The common blocks of two sequences are a chain through both. -/
theorem chain_blocks (left right : List α) :
    Chain left right 0 0 (blocks left right) left.length right.length :=
  (chain_blocksIn _ (w := ⟨0, left.length, 0, right.length⟩) ⟨Nat.le_refl _, Nat.le_refl _⟩
    (Nat.zero_le _) (Nat.zero_le _)).joinBlocks

end Blocks

end Scriptorium.Diff
