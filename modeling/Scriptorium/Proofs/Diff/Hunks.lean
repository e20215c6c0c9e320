import Scriptorium.Diff.Unified
import Scriptorium.Proofs.Diff.Matching
set_option autoImplicit false

/-!
# Hunks explain the difference

The edits between two sequences cover both of them without a gap (`Covers`), and what an edit keeps
is equal on both sides.  The hunks leave out kept items only, so that two sequences are equal
outside their hunks: `Explains` says so, and `explains_hunks` is the result.
-/

namespace Scriptorium.Diff

variable {α : Type} {left right : List α}

/-! ## Parts of sequences -/

theorem slice_eq (xs : List α) (i j : Nat) : slice xs i j = (xs.drop i).take (j - i) :=
  List.drop_take

theorem slice_append (xs : List α) {i j k : Nat} (hij : i ≤ j) (hjk : j ≤ k) :
    slice xs i j ++ slice xs j k = slice xs i k := by
  rw [slice_eq, slice_eq, slice_eq, show k - i = (j - i) + (k - j) by omega, List.take_add,
    List.drop_drop, show i + (j - i) = j by omega]

theorem slice_append_drop (xs : List α) {i j : Nat} (hij : i ≤ j) :
    slice xs i j ++ xs.drop j = xs.drop i := by
  have hdrop : xs.drop j = (xs.drop i).drop (j - i) := by
    rw [List.drop_drop, show i + (j - i) = j by omega]
  rw [slice_eq, hdrop, List.take_append_drop]

theorem length_slice {xs : List α} {i j : Nat} (hj : j ≤ xs.length) :
    (slice xs i j).length = j - i := by
  rw [slice, List.length_drop, List.length_take, Nat.min_eq_left hj]

theorem slice_self (xs : List α) (i : Nat) : slice xs i i = [] := by
  rw [slice_eq, Nat.sub_self, List.take_zero]

theorem slice_take (xs : List α) {i j n : Nat} (h : i + n ≤ j) :
    slice xs i (i + n) = (slice xs i j).take n := by
  rw [slice_eq, slice_eq, List.take_take, Nat.add_sub_cancel_left, Nat.min_eq_left (by omega)]

theorem slice_drop (xs : List α) (i j n : Nat) : slice xs (i + n) j = (slice xs i j).drop n := by
  rw [slice, slice, List.drop_drop]

/-- Both sequences are equal from `i` and `j` up to `m` and `n`. -/
structure Same (left right : List α) (i j m n : Nat) : Prop where
  leftLe : i ≤ m
  rightLe : j ≤ n
  equal : slice left i m = slice right j n

theorem Same.refl (i j : Nat) : Same left right i j i j :=
  ⟨Nat.le_refl i, Nat.le_refl j, by rw [slice_self, slice_self]⟩

theorem Same.symm {i j m n : Nat} (h : Same left right i j m n) : Same right left j i n m :=
  ⟨h.rightLe, h.leftLe, h.equal.symm⟩

theorem Same.trans {i j m n p q : Nat} (h : Same left right i j m n)
    (h' : Same left right m n p q) : Same left right i j p q := by
  refine ⟨Nat.le_trans h.leftLe h'.leftLe, Nat.le_trans h.rightLe h'.rightLe, ?_⟩
  rw [← slice_append left h.leftLe h'.leftLe, ← slice_append right h.rightLe h'.rightLe, h.equal,
    h'.equal]

/-- Equal parts are equal on both sides of a cut. -/
theorem Same.cut {i j m n k : Nat} (h : Same left right i j m n) (hleft : i + k ≤ m)
    (hright : j + k ≤ n) :
    Same left right i j (i + k) (j + k) ∧ Same left right (i + k) (j + k) m n := by
  refine ⟨⟨Nat.le_add_right _ _, Nat.le_add_right _ _, ?_⟩, ⟨hleft, hright, ?_⟩⟩
  · rw [slice_take left hleft, slice_take right hright, h.equal]
  · rw [slice_drop, slice_drop, h.equal]

/-- What is equal up to a place from which all is equal, is all equal. -/
theorem Same.drop_eq {i j m n : Nat} (h : Same left right i j m n)
    (hrest : left.drop m = right.drop n) : left.drop i = right.drop j := by
  rw [← slice_append_drop left h.leftLe, ← slice_append_drop right h.rightLe, h.equal, hrest]

/-- A block stands for equal parts. -/
theorem Block.Matches.same {b : Block} (h : b.Matches left right) :
    Same left right b.left b.right (b.left + b.size) (b.right + b.size) := by
  refine ⟨Nat.le_add_right _ _, Nat.le_add_right _ _, ?_⟩
  refine List.ext_getElem? fun k => ?_
  rw [slice_eq, slice_eq, Nat.add_sub_cancel_left, Nat.add_sub_cancel_left, List.getElem?_take,
    List.getElem?_take]
  split
  · rename_i hk
    obtain ⟨x, hx, hy⟩ := h k hk
    rw [List.getElem?_drop, List.getElem?_drop, hx, hy]
  · rfl

/-! ## Edits -/

/-- An edit stands for parts of both sequences: equal ones if it keeps, one of which is empty if it
deletes or inserts. -/
structure Edit.Valid (left right : List α) (e : Edit) : Prop where
  leftLe : e.leftStart ≤ e.leftStop
  rightLe : e.rightStart ≤ e.rightStop
  leftStop : e.leftStop ≤ left.length
  rightStop : e.rightStop ≤ right.length
  kept : e.action = .keep →
    Same left right e.leftStart e.rightStart e.leftStop e.rightStop
  deleted : e.action = .delete → e.rightStart = e.rightStop
  inserted : e.action = .insert → e.leftStart = e.leftStop

/-- What is kept has one length. -/
theorem Edit.Valid.length_eq {e : Edit} (h : e.Valid left right) (hkeep : e.action = .keep) :
    e.leftStop - e.leftStart = e.rightStop - e.rightStart := by
  have hlength := congrArg List.length (h.kept hkeep).equal
  rwa [length_slice h.leftStop, length_slice h.rightStop] at hlength

/-- Edits that follow each other from `i` and `j` up to `p` and `q`. -/
inductive Covers (left right : List α) : Nat → Nat → List Edit → Nat → Nat → Prop where
  | nil {i j : Nat} : Covers left right i j [] i j
  | cons {e : Edit} {rest : List Edit} {p q : Nat} (valid : e.Valid left right)
      (htail : Covers left right e.leftStop e.rightStop rest p q) :
      Covers left right e.leftStart e.rightStart (e :: rest) p q

theorem Covers.append {i j m n p q : Nat} {front rest : List Edit}
    (hfront : Covers left right i j front m n) (hrest : Covers left right m n rest p q) :
    Covers left right i j (front ++ rest) p q := by
  induction hfront with
  | nil => exact hrest
  | cons valid _ ih => exact .cons valid (ih hrest)

theorem Covers.of_append {i j p q : Nat} {front rest : List Edit}
    (h : Covers left right i j (front ++ rest) p q) :
    ∃ m n, Covers left right i j front m n ∧ Covers left right m n rest p q := by
  induction front generalizing i j with
  | nil => exact ⟨i, j, .nil, h⟩
  | cons e front ih =>
      cases h with
      | cons valid htail =>
          obtain ⟨m, n, hfront, hrest⟩ := ih htail
          exact ⟨m, n, .cons valid hfront, hrest⟩

theorem Covers.of_nil {i j p q : Nat} (h : Covers left right i j [] p q) : i = p ∧ j = q := by
  cases h with
  | nil => exact ⟨rfl, rfl⟩

theorem Covers.single {e : Edit} (valid : e.Valid left right) :
    Covers left right e.leftStart e.rightStart [e] e.leftStop e.rightStop :=
  .cons valid .nil

theorem Chain.le {i j p q : Nat} {blocks : List Block} (h : Chain left right i j blocks p q) :
    i ≤ p ∧ j ≤ q := by
  induction h with
  | nil hl hr => exact ⟨hl, hr⟩
  | cons hl hr _ _ ih => omega

theorem covers_gap {i j p q : Nat} (hleft : i ≤ p) (hright : j ≤ q) (hp : p ≤ left.length)
    (hq : q ≤ right.length) : Covers left right i j (gap i j p q) p q := by
  unfold gap
  split
  · exact Covers.single (e := ⟨.replace, i, p, j, q⟩)
      ⟨hleft, hright, hp, hq, by simp, by simp, by simp⟩
  · split
    · obtain rfl : j = q := by omega
      exact Covers.single (e := ⟨.delete, i, p, j, j⟩)
        ⟨hleft, hright, hp, hq, by simp, by simp, by simp⟩
    · obtain rfl : i = p := by omega
      split
      · exact Covers.single (e := ⟨.insert, i, i, j, q⟩)
          ⟨hleft, hright, hp, hq, by simp, by simp, by simp⟩
      · obtain rfl : j = q := by omega
        exact .nil

/-- The edits through a chain of blocks cover what it runs through. -/
theorem Chain.covers_editsFrom {i j p q : Nat} {blocks : List Block}
    (h : Chain left right i j blocks p q) (hp : p ≤ left.length) (hq : q ≤ right.length) :
    Covers left right i j (editsFrom i j (blocks ++ [⟨p, q, 0⟩])) p q := by
  induction h with
  | nil hl hr => simpa [editsFrom] using covers_gap hl hr hp hq
  | @cons i j p q b rest hl hr equal htail ih =>
      obtain ⟨hbp, hbq⟩ := htail.le
      rw [List.cons_append, editsFrom]
      refine Covers.append (Covers.append (covers_gap hl hr (by omega) (by omega)) ?_) (ih hp hq)
      split
      · rename_i hempty
        rw [hempty]
        exact .nil
      · exact Covers.single (e := ⟨.keep, b.left, b.left + b.size, b.right, b.right + b.size⟩)
          ⟨by simp only; omega, by simp only; omega, by simp only; omega, by simp only; omega,
            fun _ => equal.same, by simp, by simp⟩

/-- The edits between two sequences cover both. -/
theorem covers_edits [BEq α] [LawfulBEq α] (left right : List α) :
    Covers left right 0 0 (edits left right) left.length right.length :=
  (chain_blocks left right).covers_editsFrom (Nat.le_refl _) (Nat.le_refl _)

/-! ## Cutting kept edits -/

/-- A kept edit cut down to its end leaves out equal items before it. -/
theorem Edit.Valid.keepTail {e : Edit} (h : e.Valid left right) :
    (Diff.keepTail e).Valid left right ∧
      Same left right e.leftStart e.rightStart (Diff.keepTail e).leftStart
        (Diff.keepTail e).rightStart := by
  unfold Diff.keepTail
  split
  · rename_i hkeep
    have hlength := h.length_eq hkeep
    obtain ⟨hl, hr, hls, hrs, hkept, -, -⟩ := h
    -- As many items are left out on one side as on the other.
    obtain ⟨k, hk⟩ : ∃ k, k = e.leftStop - e.leftStart - contextLines := ⟨_, rfl⟩
    have hleft : max e.leftStart (e.leftStop - contextLines) = e.leftStart + k := by omega
    have hright : max e.rightStart (e.rightStop - contextLines) = e.rightStart + k := by omega
    obtain ⟨hbefore, hshown⟩ := (hkept hkeep).cut (k := k) (by omega) (by omega)
    rw [hleft, hright]
    exact ⟨⟨hshown.leftLe, hshown.rightLe, hls, hrs, fun _ => hshown, by simp [hkeep],
      by simp [hkeep]⟩, hbefore⟩
  · exact ⟨h, .refl _ _⟩

/-- A kept edit cut down to its beginning leaves out equal items behind it. -/
theorem Edit.Valid.keepHead {e : Edit} (h : e.Valid left right) :
    (Diff.keepHead e).Valid left right ∧
      Same left right (Diff.keepHead e).leftStop (Diff.keepHead e).rightStop e.leftStop
        e.rightStop := by
  unfold Diff.keepHead
  split
  · rename_i hkeep
    have hlength := h.length_eq hkeep
    obtain ⟨hl, hr, hls, hrs, hkept, -, -⟩ := h
    obtain ⟨k, hk⟩ : ∃ k, k = min (e.leftStop - e.leftStart) contextLines := ⟨_, rfl⟩
    have hleft : min e.leftStop (e.leftStart + contextLines) = e.leftStart + k := by omega
    have hright : min e.rightStop (e.rightStart + contextLines) = e.rightStart + k := by omega
    obtain ⟨hshown, hbehind⟩ := (hkept hkeep).cut (k := k) (by omega) (by omega)
    rw [hleft, hright]
    exact ⟨⟨hshown.leftLe, hshown.rightLe, by simp only; omega, by simp only; omega,
      fun _ => hshown, by simp [hkeep], by simp [hkeep]⟩, hbehind⟩
  · exact ⟨h, .refl _ _⟩

/-- Between the beginning and the end of a long kept edit all is equal. -/
theorem Edit.Valid.same_between {e : Edit} (h : e.Valid left right)
    (hlong : e.action = .keep ∧ 2 * contextLines < e.leftStop - e.leftStart) :
    Same left right (Diff.keepHead e).leftStop (Diff.keepHead e).rightStop
      (Diff.keepTail e).leftStart (Diff.keepTail e).rightStart := by
  obtain ⟨hkeep, hsize⟩ := hlong
  have hlength := h.length_eq hkeep
  have hbehind := h.keepHead.2
  simp only [Diff.keepHead, Diff.keepTail, hkeep, if_true] at hbehind ⊢
  obtain ⟨k, hk⟩ : ∃ k, k = e.leftStop - e.leftStart - 2 * contextLines := ⟨_, rfl⟩
  obtain ⟨hbetween, -⟩ := hbehind.cut (k := k) (by omega) (by omega)
  have hleft : min e.leftStop (e.leftStart + contextLines) + k =
      max e.leftStart (e.leftStop - contextLines) := by omega
  have hright : min e.rightStop (e.rightStart + contextLines) + k =
      max e.rightStart (e.rightStop - contextLines) := by omega
  rwa [hleft, hright] at hbetween

@[simp] theorem keepTail_stops (e : Edit) :
    (keepTail e).leftStop = e.leftStop ∧ (keepTail e).rightStop = e.rightStop := by
  unfold keepTail
  split <;> exact ⟨rfl, rfl⟩

@[simp] theorem keepHead_starts (e : Edit) :
    (keepHead e).leftStart = e.leftStart ∧ (keepHead e).rightStart = e.rightStart := by
  unfold keepHead
  split <;> exact ⟨rfl, rfl⟩

theorem Covers.mapFirst_keepTail {i j p q : Nat} {edits : List Edit}
    (h : Covers left right i j edits p q) :
    ∃ m n, Same left right i j m n ∧ Covers left right m n (mapFirst keepTail edits) p q := by
  cases h with
  | nil => exact ⟨i, j, .refl i j, .nil⟩
  | @cons e rest _ _ valid htail =>
      obtain ⟨hvalid, hsame⟩ := valid.keepTail
      obtain ⟨hl, hr⟩ := keepTail_stops e
      rw [← hl, ← hr] at htail
      exact ⟨_, _, hsame, .cons hvalid htail⟩

theorem mapLast_concat {β : Type} (f : β → β) (xs : List β) (x : β) :
    mapLast f (xs ++ [x]) = xs ++ [f x] := by
  simp [mapLast, mapFirst]

theorem Covers.mapLast_keepHead {i j p q : Nat} {edits : List Edit}
    (h : Covers left right i j edits p q) :
    ∃ m n, Same left right m n p q ∧ Covers left right i j (mapLast keepHead edits) m n := by
  rcases List.eq_nil_or_concat edits with rfl | ⟨front, e, rfl⟩
  · exact ⟨p, q, .refl p q, h⟩
  · rw [List.concat_eq_append] at h ⊢
    rw [mapLast_concat]
    obtain ⟨m, n, hfront, hlast⟩ := h.of_append
    cases hlast with
    | cons valid htail =>
        obtain ⟨rfl, rfl⟩ := htail.of_nil
        obtain ⟨hvalid, hsame⟩ := valid.keepHead
        obtain ⟨hl, hr⟩ := keepHead_starts e
        refine ⟨_, _, hsame, hfront.append ?_⟩
        rw [← hl, ← hr]
        exact .single hvalid

/-! ## Hunks -/

/-- From `i` and `j` on, both sequences are equal but for what hunks cover. -/
inductive Explains (left right : List α) : Nat → Nat → List (List Edit) → Prop where
  | nil {i j : Nat} (equal : left.drop i = right.drop j) : Explains left right i j []
  | cons {i j m n p q : Nat} {hunk : List Edit} {rest : List (List Edit)}
      (same : Same left right i j m n) (ne : hunk ≠ []) (covers : Covers left right m n hunk p q)
      (htail : Explains left right p q rest) : Explains left right i j (hunk :: rest)

theorem Explains.after_same {i j m n : Nat} {hunks : List (List Edit)}
    (h : Explains left right m n hunks) (hsame : Same left right i j m n) :
    Explains left right i j hunks := by
  cases h with
  | nil equal => exact .nil (hsame.drop_eq equal)
  | cons same ne covers htail => exact .cons (hsame.trans same) ne covers htail

/-- A hunk that shows no change covers equal items. -/
theorem Covers.same_of_not_showsChange {i j p q : Nat} {hunk : List Edit}
    (h : Covers left right i j hunk p q) (hshown : showsChange hunk = false) :
    Same left right i j p q := by
  cases h with
  | nil => exact .refl i j
  | @cons e rest _ _ valid htail =>
      cases rest with
      | nil =>
          obtain ⟨rfl, rfl⟩ := htail.of_nil
          exact valid.kept (by simpa [showsChange] using hshown)
      | cons e' rest => simp [showsChange] at hshown

/-- The hunks of divided edits: the last one is left out if it shows no change. -/
def shownHunks (divided : List (List Edit)) : List (List Edit) :=
  divided.dropLast ++ divided.getLast?.toList.filter showsChange

theorem shownHunks_cons {hunk : List Edit} {divided : List (List Edit)} (h : divided ≠ []) :
    shownHunks (hunk :: divided) = hunk :: shownHunks divided := by
  cases divided with
  | nil => exact absurd rfl h
  | cons first rest => simp [shownHunks]

theorem divide_ne_nil (edits hunk : List Edit) : divide edits hunk ≠ [] := by
  fun_induction divide edits hunk <;> simp_all

/-- Dividing edits leaves out kept items only. -/
theorem explains_divide {edits hunk : List Edit} {i j m n p q : Nat}
    (hhunk : Covers left right i j hunk.reverse m n) (hedits : Covers left right m n edits p q)
    (hrest : left.drop p = right.drop q) :
    Explains left right i j (shownHunks (divide edits hunk)) := by
  fun_induction divide edits hunk generalizing i j m n with
  | case1 hunk =>
      cases hedits with
      | nil =>
          cases hshown : showsChange hunk.reverse with
          | false =>
              simp only [shownHunks, List.dropLast_singleton, List.getLast?_singleton,
                Option.toList_some, List.nil_append]
              rw [List.filter_cons_of_neg (by simp [hshown])]
              exact .nil ((hhunk.same_of_not_showsChange hshown).drop_eq hrest)
          | true =>
              simp only [shownHunks, List.dropLast_singleton, List.getLast?_singleton,
                Option.toList_some, List.nil_append]
              rw [List.filter_cons_of_pos hshown]
              refine .cons (.refl i j) ?_ hhunk (.nil hrest)
              rintro hempty
              simp [hempty, showsChange] at hshown
  | case2 e rest hunk hlong ih =>
      cases hedits with
      | cons valid htail =>
          obtain ⟨hhead, -⟩ := valid.keepHead
          obtain ⟨htailed, -⟩ := valid.keepTail
          obtain ⟨hls, hrs⟩ := keepHead_starts e
          obtain ⟨hle, hre⟩ := keepTail_stops e
          have hfirst : Covers left right i j (keepHead e :: hunk).reverse (keepHead e).leftStop
              (keepHead e).rightStop := by
            rw [List.reverse_cons]
            refine hhunk.append ?_
            rw [← hls, ← hrs]
            exact .single hhead
          have hnext : Covers left right (keepTail e).leftStart (keepTail e).rightStart
              [keepTail e].reverse e.leftStop e.rightStop := by
            rw [← hle, ← hre]
            exact .single htailed
          -- What lies between this hunk and the next is the middle of the kept edit.
          rw [shownHunks_cons (divide_ne_nil _ _)]
          refine .cons (.refl i j) (by simp) hfirst ((ih hnext htail).after_same ?_)
          exact valid.same_between hlong
  | case3 e rest hunk hshort ih =>
      cases hedits with
      | cons valid htail =>
          refine ih ?_ htail
          rw [List.reverse_cons]
          exact hhunk.append (.single valid)

/-- Outside their hunks two sequences are equal. -/
theorem explains_hunks [BEq α] [LawfulBEq α] (left right : List α) :
    Explains left right 0 0 (hunks (edits left right)) := by
  obtain ⟨i, j, hbefore, hfirst⟩ := (covers_edits left right).mapFirst_keepTail
  obtain ⟨p, q, hafter, htrimmed⟩ := hfirst.mapLast_keepHead
  have hrest : left.drop p = right.drop q := hafter.drop_eq (by simp)
  exact (explains_divide .nil htrimmed hrest).after_same hbefore

end Scriptorium.Diff
