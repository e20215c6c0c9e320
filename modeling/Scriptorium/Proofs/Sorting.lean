import Mathlib.Order.Lattice
import Scriptorium.Sorting
set_option autoImplicit false

/-!
# What sorting keeps

If sorting by a comparison that may fail gives a result, it has the items that were given, each as
often.  Sorting fails only if a comparison of two of the items fails.

Where comparing two items compares their keys, the result is in the order of the keys, and items
with the same key stand as they were given.
-/

namespace Scriptorium.Sorting

variable {α : Type} {less : α → α → Outcome Bool}

/-- No comparison of two items fails. -/
def Comparable (less : α → α → Outcome Bool) (items : List α) : Prop :=
  ∀ a ∈ items, ∀ b ∈ items, ∃ answer, less a b = .ok answer

theorem Comparable.mono {items others : List α} (h : Comparable less items)
    (hsubset : ∀ a ∈ others, a ∈ items) : Comparable less others := by
  intro a ha b hb
  exact h a (hsubset a ha) b (hsubset b hb)

/-! ## The run at the front -/

/-- The run and the items after it are the given ones. -/
theorem extendRun_append {down : Bool} {run rest : List α} {last : α} {result : List α × List α}
    (h : extendRun less down run last rest = .ok result) :
    result.1.reverse ++ result.2 = run.reverse ++ last :: rest := by
  induction rest generalizing run last with
  | nil =>
      obtain rfl := Except.ok.inj h
      simp
  | cons x rest ih =>
      unfold extendRun at h
      split at h
      · cases h
      · split at h
        · simpa using ih h
        · obtain rfl := Except.ok.inj h
          simp

theorem extendRun_perm {down : Bool} {run rest : List α} {last : α} {result : List α × List α}
    (h : extendRun less down run last rest = .ok result) :
    (result.1 ++ result.2).Perm (run ++ last :: rest) := by
  have hback : (result.1 ++ result.2).Perm (result.1.reverse ++ result.2) :=
    (List.reverse_perm _).symm.append_right _
  rw [extendRun_append h] at hback
  exact hback.trans ((List.reverse_perm run).append_right _)

theorem extendRun_ok (down : Bool) (run : List α) {last : α} {rest : List α}
    (h : Comparable less (last :: rest)) :
    ∃ result, extendRun less down run last rest = .ok result := by
  induction rest generalizing run last with
  | nil => exact ⟨_, rfl⟩
  | cons x rest ih =>
      obtain ⟨answer, hanswer⟩ := h x (by simp) last (by simp)
      rw [extendRun, hanswer]
      by_cases hgoes : answer = down
      · obtain ⟨result, hresult⟩ :=
          ih (last :: run) (h.mono fun a ha => List.mem_cons_of_mem last ha)
        exact ⟨result, by simp only [hgoes, if_true, hresult]⟩
      · refine ⟨(last :: run, x :: rest), ?_⟩
        simp only [hgoes, if_false]

theorem firstRun_perm {items : List α} {result : List α × List α}
    (h : firstRun less items = .ok result) : (result.1 ++ result.2).Perm items := by
  unfold firstRun at h
  split at h
  · obtain rfl := Except.ok.inj h
    exact List.Perm.refl _
  · obtain rfl := Except.ok.inj h
    exact List.Perm.refl _
  · split at h
    · cases h
    · exact extendRun_perm h
    · rename_i x y rest _ _
      cases hrun : extendRun less false [x] y rest with
      | error f => simp [hrun, Except.map] at h
      | ok found =>
          simp only [hrun, Except.map, Except.ok.injEq] at h
          subst h
          have hback : (found.1.reverse ++ found.2).Perm (found.1 ++ found.2) :=
            (List.reverse_perm _).append_right _
          exact hback.trans (extendRun_perm hrun)

theorem firstRun_ok {items : List α} (h : Comparable less items) :
    ∃ result, firstRun less items = .ok result := by
  match items with
  | [] => exact ⟨_, rfl⟩
  | [x] => exact ⟨_, rfl⟩
  | x :: y :: rest =>
      obtain ⟨answer, hanswer⟩ := h y (by simp) x (by simp)
      have hrest : Comparable less (y :: rest) := h.mono fun a ha => List.mem_cons_of_mem x ha
      rw [firstRun, hanswer]
      cases answer with
      | true => exact extendRun_ok true [x] hrest
      | false =>
          obtain ⟨result, hresult⟩ := extendRun_ok false [x] hrest
          refine ⟨(result.1.reverse, result.2), ?_⟩
          simp only [hresult, Except.map]

/-! ## Later items -/

theorem bisect_ok {item : α} {sorted : List α}
    (h : ∀ other ∈ sorted, ∃ answer, less item other = .ok answer) (fuel low high : Nat) :
    ∃ place, bisect less item sorted fuel low high = .ok place := by
  induction fuel generalizing low high with
  | zero => exact ⟨low, rfl⟩
  | succ fuel ih =>
      rw [bisect]
      split
      · dsimp only
        split
        · exact ⟨low, rfl⟩
        · rename_i other hother
          obtain ⟨answer, hanswer⟩ := h other (List.mem_of_getElem? hother)
          rw [hanswer]
          cases answer with
          | true => exact ih low _
          | false => exact ih _ high
      · exact ⟨low, rfl⟩

theorem insert_perm {sorted result : List α} {item : α}
    (h : insert less sorted item = .ok result) : result.Perm (item :: sorted) := by
  unfold insert at h
  cases hplace : bisect less item sorted sorted.length 0 sorted.length with
  | error f => simp [hplace, Except.map] at h
  | ok place =>
      simp only [hplace, Except.map, Except.ok.injEq] at h
      subst h
      have hmoved : (sorted.take place ++ item :: sorted.drop place).Perm
          (item :: (sorted.take place ++ sorted.drop place)) := List.perm_middle
      rwa [List.take_append_drop] at hmoved

theorem insert_ok {sorted : List α} {item : α}
    (h : ∀ other ∈ sorted, ∃ answer, less item other = .ok answer) :
    ∃ result, insert less sorted item = .ok result := by
  obtain ⟨place, hplace⟩ := bisect_ok h sorted.length 0 sorted.length
  refine ⟨sorted.take place ++ item :: sorted.drop place, ?_⟩
  simp only [insert, hplace, Except.map]

theorem foldlM_insert_perm {sorted rest result : List α}
    (h : rest.foldlM (insert less) sorted = .ok result) : result.Perm (sorted ++ rest) := by
  induction rest generalizing sorted with
  | nil =>
      obtain rfl := Except.ok.inj h
      simp
  | cons item rest ih =>
      rw [List.foldlM_cons] at h
      cases hinsert : insert less sorted item with
      | error f => simp [hinsert, bind, Except.bind] at h
      | ok longer =>
          simp only [hinsert, bind, Except.bind] at h
          have hmoved : (item :: sorted ++ rest).Perm (sorted ++ item :: rest) :=
            List.perm_middle.symm
          exact (ih h).trans (((insert_perm hinsert).append_right rest).trans hmoved)

theorem foldlM_insert_ok {sorted rest : List α} (h : Comparable less (sorted ++ rest)) :
    ∃ result, rest.foldlM (insert less) sorted = .ok result := by
  induction rest generalizing sorted with
  | nil => exact ⟨sorted, rfl⟩
  | cons item rest ih =>
      have hitem : ∀ other ∈ sorted, ∃ answer, less item other = .ok answer := by
        intro other hother
        exact h item (by simp) other (List.mem_append_left _ hother)
      obtain ⟨longer, hlonger⟩ := insert_ok hitem
      have hperm : (longer ++ rest).Perm (sorted ++ item :: rest) :=
        ((insert_perm hlonger).append_right rest).trans List.perm_middle.symm
      obtain ⟨result, hresult⟩ := ih (h.mono fun a ha => hperm.subset ha)
      exact ⟨result, by rw [List.foldlM_cons, hlonger]; exact hresult⟩

/-! ## Sorting -/

/-- A result has the items that were given, each as often. -/
theorem sort_perm {items result : List α} (h : sort less items = .ok result) :
    result.Perm items := by
  unfold sort at h
  split at h
  · cases h
  · rename_i hrun
    exact (foldlM_insert_perm h).trans (firstRun_perm hrun)

/-- Sorting fails only if a comparison fails. -/
theorem sort_ok {items : List α} (h : Comparable less items) :
    ∃ result, sort less items = .ok result := by
  obtain ⟨⟨run, rest⟩, hrun⟩ := firstRun_ok h
  have hperm : (run ++ rest).Perm items := firstRun_perm hrun
  rw [sort, hrun]
  exact foldlM_insert_ok (h.mono fun a ha => hperm.subset ha)

/-! ## Sorting by a key -/

section Key

variable {κ : Type} [LinearOrder κ] {key : α → κ} {items : List α}

/-- Comparing two of the items compares their keys. -/
def ComparesBy (less : α → α → Outcome Bool) (key : α → κ) (items : List α) : Prop :=
  ∀ a ∈ items, ∀ b ∈ items, ∃ answer, less a b = .ok answer ∧ (answer = true ↔ key a < key b)

theorem ComparesBy.comparable (h : ComparesBy less key items) : Comparable less items := by
  intro a ha b hb
  obtain ⟨answer, hanswer, -⟩ := h a ha b hb
  exact ⟨answer, hanswer⟩

theorem ComparesBy.mono {others : List α} (h : ComparesBy less key items)
    (hsubset : ∀ a ∈ others, a ∈ items) : ComparesBy less key others := by
  intro a ha b hb
  exact h a (hsubset a ha) b (hsubset b hb)

/-- A choice of items that have all the same key. -/
def OneKey (key : α → κ) (keep : α → Bool) : Prop :=
  ∀ a b, keep a = true → keep b = true → key a = key b

/-- Items in the order of their keys; those with the same key stand as they were given. -/
structure SortedFrom (key : α → κ) (items result : List α) : Prop where
  sorted : result.Pairwise fun a b => key a ≤ key b
  stable : ∀ keep, OneKey key keep → result.filter keep = items.filter keep

/-! ### The run at the front -/

/-- How the keys of a run go on, from an item to the one before. -/
def Goes (key : α → κ) (down : Bool) (later earlier : α) : Prop :=
  key later < key earlier ↔ down = true

theorem Goes.trans {down : Bool} {a b c : α} (hab : Goes key down a b) (hbc : Goes key down b c) :
    Goes key down a c := by
  unfold Goes at hab hbc ⊢
  cases down with
  | true =>
      simp only [iff_true] at hab hbc ⊢
      exact lt_trans hab hbc
  | false =>
      simp only [Bool.false_eq_true, iff_false, not_lt] at hab hbc ⊢
      exact le_trans hbc hab

/-- All items of a run go on alike. -/
theorem extendRun_goes {down : Bool} {run rest : List α} {last : α} {result : List α × List α}
    (hcompares : ComparesBy less key (last :: rest))
    (hrun : (last :: run).Pairwise (Goes key down))
    (h : extendRun less down run last rest = .ok result) : result.1.Pairwise (Goes key down) := by
  induction rest generalizing run last with
  | nil =>
      obtain rfl := Except.ok.inj h
      exact hrun
  | cons x rest ih =>
      obtain ⟨answer, hanswer, hless⟩ := hcompares x (by simp) last (by simp)
      rw [extendRun, hanswer] at h
      by_cases hgoes : answer = down
      · simp only [hgoes, if_true] at h
        have hx : Goes key down x last := by rw [Goes, ← hless, hgoes]
        refine ih (hcompares.mono fun a ha => List.mem_cons_of_mem last ha) ?_ h
        -- the new item goes on from the last one, and so from all before it
        refine List.pairwise_cons.mpr ⟨?_, hrun⟩
        intro earlier hearlier
        rcases List.mem_cons.mp hearlier with rfl | hmem
        · exact hx
        · exact hx.trans ((List.pairwise_cons.mp hrun).1 earlier hmem)
      · simp only [hgoes, if_false] at h
        obtain rfl := Except.ok.inj h
        exact hrun

/-- Of items with rising keys at most one has a given key. -/
theorem reverse_filter_of_lt {run : List α} (hrun : run.Pairwise fun a b => key a < key b)
    {keep : α → Bool} (hkeep : OneKey key keep) : (run.filter keep).reverse = run.filter keep := by
  have hkept : (run.filter keep).Pairwise fun a b => key a < key b := hrun.filter keep
  have hall : ∀ a ∈ run.filter keep, keep a = true := fun a ha => (List.mem_filter.mp ha).2
  rcases hfilter : run.filter keep with _ | ⟨a, _ | ⟨b, later⟩⟩
  · rfl
  · rfl
  · rw [hfilter] at hkept hall
    have hlt : key a < key b := (List.pairwise_cons.mp hkept).1 b (by simp)
    have heq : key a = key b := hkeep a b (hall a (by simp)) (hall b (by simp))
    exact absurd heq (ne_of_lt hlt)

/-- The run at the front is in the order of its keys. -/
theorem firstRun_sorted {result : List α × List α} (hcompares : ComparesBy less key items)
    (h : firstRun less items = .ok result) :
    result.1.Pairwise (fun a b => key a ≤ key b) ∧
      ∀ keep, OneKey key keep → (result.1 ++ result.2).filter keep = items.filter keep := by
  rcases items with _ | ⟨x, _ | ⟨y, rest⟩⟩
  · obtain rfl := Except.ok.inj h
    simp
  · obtain rfl := Except.ok.inj h
    simp
  · obtain ⟨answer, hanswer, hless⟩ := hcompares y (by simp) x (by simp)
    have hrest : ComparesBy less key (y :: rest) :=
      hcompares.mono fun a ha => List.mem_cons_of_mem x ha
    have hstart : [y, x].Pairwise (Goes key answer) := by simp [Goes, hless]
    rw [firstRun, hanswer] at h
    cases answer with
    | true =>
        have hgoes := extendRun_goes hrest hstart h
        have hlt : result.1.Pairwise fun a b => key a < key b := hgoes.imp fun hab => hab.mpr rfl
        refine ⟨hlt.imp le_of_lt, ?_⟩
        intro keep hkeep
        have hgiven : result.1.reverse ++ result.2 = x :: y :: rest := extendRun_append h
        rw [← hgiven, List.filter_append, List.filter_append, List.filter_reverse,
          reverse_filter_of_lt hlt hkeep]
    | false =>
        simp only at h
        cases hrun : extendRun less false [x] y rest with
        | error f => simp [hrun, Except.map] at h
        | ok found =>
            simp only [hrun, Except.map, Except.ok.injEq] at h
            subst h
            have hgoes := extendRun_goes hrest hstart hrun
            have hgiven : found.1.reverse ++ found.2 = x :: y :: rest := extendRun_append hrun
            refine ⟨?_, fun keep _ => by rw [hgiven]⟩
            rw [List.pairwise_reverse]
            refine hgoes.imp fun hab => ?_
            simpa [Goes] using hab

/-! ### Later items -/

/-- An item belongs between two positions of sorted ones: behind those before the first position,
and before those from the second one on. -/
structure Between (key : α → κ) (item : α) (sorted : List α) (low high : Nat) : Prop where
  below : ∀ (i : Nat) (other : α), i < low → sorted[i]? = some other → key other ≤ key item
  above : ∀ (i : Nat) (other : α), high ≤ i → sorted[i]? = some other → key item < key other

theorem getElem?_le {sorted : List α} (hsorted : sorted.Pairwise fun a b => key a ≤ key b)
    {i j : Nat} {a b : α} (hij : i ≤ j) (ha : sorted[i]? = some a) (hb : sorted[j]? = some b) :
    key a ≤ key b := by
  obtain ⟨hi, rfl⟩ := List.getElem?_eq_some_iff.mp ha
  obtain ⟨hj, rfl⟩ := List.getElem?_eq_some_iff.mp hb
  rcases Nat.eq_or_lt_of_le hij with rfl | hlt
  · exact le_refl _
  · exact List.pairwise_iff_getElem.mp hsorted i j hi hj hlt

/-- Bisection ends with the place to which an item belongs. -/
theorem bisect_between {item : α} {sorted : List α}
    (hsorted : sorted.Pairwise fun a b => key a ≤ key b)
    (hcompares : ∀ other ∈ sorted, ∃ answer, less item other = .ok answer ∧
      (answer = true ↔ key item < key other))
    {fuel low high place : Nat} (hfuel : high ≤ low + fuel) (hlow : low ≤ high)
    (hhigh : high ≤ sorted.length) (hbetween : Between key item sorted low high)
    (h : bisect less item sorted fuel low high = .ok place) :
    Between key item sorted place place := by
  induction fuel generalizing low high with
  | zero =>
      obtain rfl := Except.ok.inj h
      obtain rfl : low = high := by omega
      exact hbetween
  | succ fuel ih =>
      rw [bisect] at h
      by_cases hwide : low < high
      · rw [if_pos hwide] at h
        dsimp only at h
        generalize hmiddle : low + (high - low) / 2 = middle at h
        have hin : low ≤ middle ∧ middle < high := by omega
        obtain ⟨other, hother⟩ : ∃ other, sorted[middle]? = some other :=
          ⟨sorted[middle], List.getElem?_eq_getElem (by omega)⟩
        obtain ⟨answer, hanswer, hless⟩ := hcompares other (List.mem_of_getElem? hother)
        rw [hother] at h
        simp only [hanswer] at h
        cases answer with
        | true =>
            refine ih (by omega) hin.1 (by omega) ⟨hbetween.below, ?_⟩ h
            intro i a hi ha
            exact lt_of_lt_of_le (hless.mp rfl) (getElem?_le hsorted hi hother ha)
        | false =>
            refine ih (by omega) (by omega) hhigh ⟨?_, hbetween.above⟩ h
            intro i a hi ha
            have hle : key other ≤ key item := by simpa using hless
            exact le_trans (getElem?_le hsorted (Nat.le_of_lt_succ hi) ha hother) hle
      · rw [if_neg hwide] at h
        obtain rfl := Except.ok.inj h
        obtain rfl : low = high := by omega
        exact hbetween

section Between

variable {item other : α} {sorted : List α} {place : Nat}

theorem Between.le_of_mem_take (h : Between key item sorted place place)
    (hother : other ∈ sorted.take place) : key other ≤ key item := by
  obtain ⟨i, hi⟩ := List.mem_iff_getElem?.mp hother
  rw [List.getElem?_take] at hi
  split at hi
  · exact h.below i other ‹_› hi
  · cases hi

theorem Between.lt_of_mem_drop (h : Between key item sorted place place)
    (hother : other ∈ sorted.drop place) : key item < key other := by
  obtain ⟨i, hi⟩ := List.mem_iff_getElem?.mp hother
  rw [List.getElem?_drop] at hi
  exact h.above (place + i) other (Nat.le_add_right _ _) hi

end Between

/-- An item goes behind all that have its key. -/
theorem insert_sortedFrom {item : α} {sorted result : List α}
    (hsorted : sorted.Pairwise fun a b => key a ≤ key b)
    (hcompares : ∀ other ∈ sorted, ∃ answer, less item other = .ok answer ∧
      (answer = true ↔ key item < key other))
    (h : insert less sorted item = .ok result) : SortedFrom key (sorted ++ [item]) result := by
  unfold insert at h
  cases hplace : bisect less item sorted sorted.length 0 sorted.length with
  | error f => simp [hplace, Except.map] at h
  | ok place =>
      simp only [hplace, Except.map, Except.ok.injEq] at h
      subst h
      have hstart : Between key item sorted 0 sorted.length := by
        refine ⟨fun i other hi => absurd hi (Nat.not_lt_zero i), ?_⟩
        intro i other hi hother
        simp [List.getElem?_eq_none hi] at hother
      have hbetween := bisect_between hsorted hcompares (Nat.le_add_left _ _) (Nat.zero_le _)
        (Nat.le_refl _) hstart hplace
      constructor
      · rw [← List.take_append_drop place sorted, List.pairwise_append] at hsorted
        obtain ⟨htake, hdrop, hcross⟩ := hsorted
        rw [List.pairwise_append, List.pairwise_cons]
        refine ⟨htake, ⟨fun b hb => le_of_lt (hbetween.lt_of_mem_drop hb), hdrop⟩, ?_⟩
        intro a ha b hb
        rcases List.mem_cons.mp hb with rfl | hlater
        · exact hbetween.le_of_mem_take ha
        · exact hcross a ha b hlater
      · intro keep hkeep
        have hparts : sorted.filter keep =
            (sorted.take place).filter keep ++ (sorted.drop place).filter keep := by
          rw [← List.filter_append, List.take_append_drop]
        rw [List.filter_append, List.filter_append, hparts]
        cases hitem : keep item with
        | false => simp [hitem]
        | true =>
            have hnone : (sorted.drop place).filter keep = [] := by
              rw [List.filter_eq_nil_iff]
              intro b hb hkept
              exact absurd (hkeep item b hitem hkept) (ne_of_lt (hbetween.lt_of_mem_drop hb))
            simp [hitem, hnone]

theorem foldlM_insert_sortedFrom {sorted rest result : List α}
    (hcompares : ComparesBy less key (sorted ++ rest))
    (hsorted : sorted.Pairwise fun a b => key a ≤ key b)
    (h : rest.foldlM (insert less) sorted = .ok result) :
    SortedFrom key (sorted ++ rest) result := by
  induction rest generalizing sorted with
  | nil =>
      obtain rfl := Except.ok.inj h
      exact ⟨hsorted, fun keep _ => by rw [List.append_nil]⟩
  | cons item rest ih =>
      rw [List.foldlM_cons] at h
      cases hinsert : insert less sorted item with
      | error f => simp [hinsert, bind, Except.bind] at h
      | ok longer =>
          simp only [hinsert, bind, Except.bind] at h
          have hone := insert_sortedFrom hsorted
            (fun other hother => hcompares item (by simp) other (List.mem_append_left _ hother))
            hinsert
          have hperm : (longer ++ rest).Perm (sorted ++ item :: rest) :=
            ((insert_perm hinsert).append_right rest).trans List.perm_middle.symm
          have hall := ih (hcompares.mono fun a ha => hperm.subset ha) hone.sorted h
          refine ⟨hall.sorted, ?_⟩
          intro keep hkeep
          rw [hall.stable keep hkeep, List.filter_append, hone.stable keep hkeep,
            ← List.filter_append, List.append_assoc, List.singleton_append]

/-- Items that are compared by their keys are sorted by them, and stably. -/
theorem sort_by_key (hcompares : ComparesBy less key items) :
    ∃ result, sort less items = .ok result ∧ result.Perm items ∧ SortedFrom key items result := by
  obtain ⟨result, hresult⟩ := sort_ok hcompares.comparable
  refine ⟨result, hresult, sort_perm hresult, ?_⟩
  unfold sort at hresult
  split at hresult
  · cases hresult
  · rename_i run rest hrun
    obtain ⟨hsorted, hstable⟩ := firstRun_sorted hcompares hrun
    have hall := foldlM_insert_sortedFrom
      (hcompares.mono fun a ha => (firstRun_perm hrun).subset ha) hsorted hresult
    refine ⟨hall.sorted, ?_⟩
    intro keep hkeep
    rw [hall.stable keep hkeep, hstable keep hkeep]

end Key

end Scriptorium.Sorting
