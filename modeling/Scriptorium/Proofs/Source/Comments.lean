import Mathlib.Data.Nat.Find
import Scriptorium.Source.Structure
set_option autoImplicit false

/-!
# The first documentation comment of a script

A function or class is documented if a whole comment stands somewhere before it.  Whatever comment
that is, the first one of the whole text ends no later: it has the leftmost opener and the nearest
closer.  So one place of the text, the end of its first comment, tells the documented functions and
classes from the others.
-/

namespace Scriptorium.Source

/-! ## Finding -/

section Finding

variable {α : Type} {recognise : Recogniser α}

/-- What is found is recognised at its index, behind everything that is skipped. -/
theorem recognised_of_mem_findFrom {skip i : Nat} {cs : List Char} {found : Nat × α}
    (h : found ∈ findFrom recognise skip i cs) :
    i + skip ≤ found.1 ∧ ∃ size, recognise (cs.drop (found.1 - i)) = some (found.2, size) := by
  fun_induction findFrom recognise skip i cs with
  | case1 => cases h
  | case2 skip i c rest ih =>
      obtain ⟨hle, size, hsize⟩ := ih h
      refine ⟨by omega, size, ?_⟩
      rwa [show found.1 - i = found.1 - (i + 1) + 1 by omega, List.drop_succ_cons]
  | case3 i c rest x size hx ih =>
      rcases List.mem_cons.mp h with rfl | hlater
      · exact ⟨Nat.le_refl _, size, by simpa using hx⟩
      · obtain ⟨hle, size, hsize⟩ := ih hlater
        refine ⟨by omega, size, ?_⟩
        rwa [show found.1 - i = found.1 - (i + 1) + 1 by omega, List.drop_succ_cons]
  | case4 i c rest hnone ih =>
      obtain ⟨hle, size, hsize⟩ := ih h
      refine ⟨by omega, size, ?_⟩
      rwa [show found.1 - i = found.1 - (i + 1) + 1 by omega, List.drop_succ_cons]

theorem recognised_of_mem_findAll {cs : List Char} {found : Nat × α}
    (h : found ∈ findAll recognise cs) :
    ∃ size, recognise (cs.drop found.1) = some (found.2, size) :=
  (recognised_of_mem_findFrom h).2

theorem pairwise_findFrom (skip i : Nat) (cs : List Char) :
    (findFrom recognise skip i cs).Pairwise fun a b => a.1 < b.1 := by
  fun_induction findFrom recognise skip i cs with
  | case1 => exact .nil
  | case2 skip i c rest ih => exact ih
  | case3 i c rest x size hx ih =>
      refine .cons (fun later hlater => ?_) ih
      have := (recognised_of_mem_findFrom hlater).1
      dsimp only
      omega
  | case4 i c rest hnone ih => exact ih

/-- Finds are listed from left to right. -/
theorem pairwise_findAll (recognise : Recogniser α) (cs : List Char) :
    (findAll recognise cs).Pairwise fun a b => a.1 < b.1 :=
  pairwise_findFrom 0 0 cs

/-- The first find is at the leftmost index at which something is recognised. -/
theorem head?_findFrom {i start size : Nat} {cs : List Char} {x : α}
    (hleft : ∀ j < start, recognise (cs.drop j) = none)
    (hfound : recognise (cs.drop start) = some (x, size)) (hlength : start < cs.length) :
    (findFrom recognise 0 i cs).head? = some (i + start, x) := by
  induction cs generalizing i start with
  | nil => cases hlength
  | cons c rest ih =>
      cases start with
      | zero =>
          rw [List.drop_zero] at hfound
          simp [findFrom, hfound]
      | succ start =>
          have hnone : recognise (c :: rest) = none := hleft 0 (Nat.succ_pos _)
          have hrest := ih (i := i + 1) (fun j hj => hleft (j + 1) (Nat.succ_lt_succ hj)) hfound
            (Nat.lt_of_succ_lt_succ hlength)
          simp only [findFrom, hnone, hrest, Option.some.injEq, Prod.mk.injEq, and_true]
          omega

end Finding

/-! ## Openers and closers -/

/-- A word stands at an index of a text. -/
def Stands (word : String) (cs : List Char) (i : Nat) : Prop := word.toList <+: cs.drop i

instance (word : String) (cs : List Char) (i : Nat) : Decidable (Stands word cs i) :=
  inferInstanceAs (Decidable (_ <+: _))

theorem stands_add_iff {word : String} {cs : List Char} {i j : Nat} :
    Stands word cs (i + j) ↔ Stands word (cs.drop i) j := by
  rw [Stands, Stands, List.drop_drop]

theorem stands_succ_iff {word : String} {c : Char} {cs : List Char} {i : Nat} :
    Stands word (c :: cs) (i + 1) ↔ Stands word cs i := Iff.rfl

/-- A word stands among the first characters of a text if it stands in the text and ends there. -/
theorem stands_take_iff {word : String} {cs : List Char} {i size : Nat} (hword : word ≠ "") :
    Stands word (cs.take size) i ↔ Stands word cs i ∧ i + word.toList.length ≤ size := by
  have hpos : 0 < word.toList.length :=
    List.length_pos_iff.mpr fun hnil => hword (String.toList_eq_nil_iff.mp hnil)
  rw [Stands, Stands, List.drop_take, List.prefix_take_iff]
  refine and_congr_right fun _ => ?_
  omega

/-- What is counted up to the first closer ends with one. -/
theorem stands_of_closing? {cs : List Char} {n : Nat} (h : closing? cs = some n) :
    ∃ k, n = k + 2 ∧ Stands "*/" cs k := by
  fun_induction closing? cs generalizing n with
  | case1 rest =>
      obtain rfl := Option.some.inj h
      exact ⟨0, rfl, ⟨rest, rfl⟩⟩
  | case2 c rest _ ih =>
      obtain ⟨m, hm, rfl⟩ := Option.map_eq_some_iff.mp h
      obtain ⟨k, rfl, hk⟩ := ih hm
      exact ⟨k + 1, by omega, stands_succ_iff.mpr hk⟩
  | case3 => cases h

/-- No closer ends before the first one. -/
theorem closing?_le {cs : List Char} {k : Nat} (h : Stands "*/" cs k) :
    ∃ n ≤ k + 2, closing? cs = some n := by
  fun_induction closing? cs generalizing k with
  | case1 rest => exact ⟨2, by omega, rfl⟩
  | case2 c rest hclosed ih =>
      cases k with
      | zero =>
          obtain ⟨tail, htail⟩ := h
          obtain ⟨rfl, rfl⟩ := List.cons.inj htail
          exact absurd rfl (hclosed tail rfl)
      | succ k =>
          obtain ⟨n, hn, hsome⟩ := ih (stands_succ_iff.mp h)
          exact ⟨n + 1, by omega, by rw [hsome, Option.map_some]⟩
  | case3 =>
      have := h.length_le
      simp at this

/-- A comment begins with an opener, and a closer behind that ends it. -/
theorem of_docComment {cs text : List Char} {n : Nat} (h : docComment cs = some (text, n)) :
    text = cs.take n ∧ Stands "/**" cs 0 ∧ ∃ k, 3 ≤ k ∧ n = k + 2 ∧ Stands "*/" cs k := by
  unfold docComment at h
  split at h
  · rename_i rest
    obtain ⟨m, hm, hpair⟩ := Option.map_eq_some_iff.mp h
    obtain ⟨rfl, rfl⟩ := Prod.mk.inj hpair
    obtain ⟨k, rfl, hk⟩ := stands_of_closing? hm
    exact ⟨rfl, ⟨rest, rfl⟩, k + 3, by omega, by omega, hk⟩
  · cases h

/-- Where an opener stands and a closer somewhere behind it, there is a comment that ends no later
than that closer. -/
theorem docComment_le {cs : List Char} {k : Nat} (hopen : Stands "/**" cs 0)
    (hclose : Stands "*/" cs k) (hbehind : 3 ≤ k) :
    ∃ n ≤ k + 2, docComment cs = some (cs.take n, n) := by
  obtain ⟨rest, rfl⟩ : ∃ rest, '/' :: '*' :: '*' :: rest = cs := hopen
  obtain ⟨k, rfl⟩ := Nat.exists_eq_add_of_le' hbehind
  have hrest : Stands "*/" rest k := hclose
  obtain ⟨n, hn, hsome⟩ := closing?_le hrest
  exact ⟨n + 3, by omega, by rw [docComment, hsome, Option.map_some]⟩

/-! ## The first comment -/

/-- The first comment of a text goes from `start` to `stop`: it begins with the leftmost opener and
ends with the nearest closer behind that. -/
structure FirstComment (cs : List Char) (start stop : Nat) : Prop where
  opened : Stands "/**" cs start
  leftmost : ∀ i < start, ¬Stands "/**" cs i
  behind : start + 5 ≤ stop
  closed : Stands "*/" cs (stop - 2)
  nearest : ∀ i, start + 3 ≤ i → i + 2 < stop → ¬Stands "*/" cs i

namespace FirstComment

variable {cs : List Char} {start stop : Nat}

/-- No comment, wherever it begins, ends before the first one. -/
theorem le (h : FirstComment cs start stop) {i k : Nat} (hopen : Stands "/**" cs i)
    (hclose : Stands "*/" cs k) (hbehind : i + 3 ≤ k) : stop ≤ k + 2 := by
  have hstart : start ≤ i := Nat.le_of_not_lt fun hlt => h.leftmost i hlt hopen
  refine Nat.le_of_not_lt fun hlt => h.nearest k ?_ hlt hclose
  omega

/-- A text with an opener and a closer behind it has a first comment. -/
theorem exists_of_stands {i k : Nat} (hopen : Stands "/**" cs i) (hclose : Stands "*/" cs k)
    (hbehind : i + 3 ≤ k) : ∃ start stop, FirstComment cs start stop := by
  have hopens : ∃ i, Stands "/**" cs i := ⟨i, hopen⟩
  have hle : Nat.find hopens ≤ i := Nat.find_min' hopens hopen
  have hcloses : ∃ k, Nat.find hopens + 3 ≤ k ∧ Stands "*/" cs k := ⟨k, by omega, hclose⟩
  obtain ⟨hfar, hclosed⟩ := Nat.find_spec hcloses
  refine ⟨Nat.find hopens, Nat.find hcloses + 2, Nat.find_spec hopens,
    fun j hj => Nat.find_min hopens hj, by omega, hclosed, ?_⟩
  intro j hj hlt hstands
  exact Nat.find_min hcloses (by omega) ⟨hj, hstands⟩

/-- The first comment is what is recognised at its start. -/
theorem docComment_eq (h : FirstComment cs start stop) :
    docComment (cs.drop start) = some ((cs.drop start).take (stop - start), stop - start) := by
  have hbehind := h.behind
  have hclosed : Stands "*/" (cs.drop start) (stop - 2 - start) := by
    rw [← stands_add_iff, show start + (stop - 2 - start) = stop - 2 by omega]
    exact h.closed
  obtain ⟨n, hn, hcomment⟩ := docComment_le h.opened hclosed (by omega)
  obtain ⟨-, -, k, hk, rfl, hstands⟩ := of_docComment hcomment
  have hle := h.le h.opened (stands_add_iff.mpr hstands) (by omega)
  rwa [show stop - start = k + 2 by omega]

theorem start_lt_length (h : FirstComment cs start stop) : start < cs.length := by
  have hlength := h.opened.length_le
  have hopener : "/**".toList.length = 3 := rfl
  rw [hopener, List.length_drop] at hlength
  omega

/-- The first comment heads the list of comments. -/
theorem head?_docComments (h : FirstComment cs start stop) :
    (docComments cs).head? = some ((cs.drop start).take (stop - start)) := by
  have hleft : ∀ i < start, docComment (cs.drop i) = none := by
    intro i hi
    refine Option.eq_none_iff_forall_ne_some.mpr ?_
    rintro ⟨text, n⟩ hcomment
    exact h.leftmost i hi (of_docComment hcomment).2.1
  have hhead := head?_findFrom (i := 0) hleft h.docComment_eq h.start_lt_length
  rw [docComments, findAll, List.head?_map, hhead, Option.map_some]

end FirstComment

/-- A comment is found in a text if an opener and a closer behind it stand there. -/
theorem holdsComment_iff {cs : List Char} :
    holdsComment cs = true ↔ ∃ i k, Stands "/**" cs i ∧ Stands "*/" cs k ∧ i + 3 ≤ k := by
  induction cs with
  | nil =>
      refine ⟨by simp [holdsComment], ?_⟩
      rintro ⟨i, k, hopen, -⟩
      have := hopen.length_le
      simp at this
  | cons c rest ih =>
      rw [holdsComment, Bool.or_eq_true, ih]
      constructor
      · rintro (hhere | ⟨i, k, hopen, hclose, hbehind⟩)
        · obtain ⟨⟨text, n⟩, hcomment⟩ := Option.isSome_iff_exists.mp hhere
          obtain ⟨-, hopen, k, hbehind, -, hclose⟩ := of_docComment hcomment
          exact ⟨0, k, hopen, hclose, by omega⟩
        · exact ⟨i + 1, k + 1, hopen, hclose, by omega⟩
      · rintro ⟨i, k, hopen, hclose, hbehind⟩
        cases i with
        | zero =>
            obtain ⟨n, -, hcomment⟩ := docComment_le hopen hclose hbehind
            exact .inl (Option.isSome_iff_exists.mpr ⟨_, hcomment⟩)
        | succ i =>
            obtain ⟨k, rfl⟩ : ∃ j, k = j + 1 := ⟨k - 1, by omega⟩
            exact .inr ⟨i, k, hopen, hclose, by omega⟩

/-- A comment is found before an index exactly if an opener and a closer behind it stand in the
whole text, the closer ending there. -/
theorem documentedAt_iff_stands {cs : List Char} {index : Nat} :
    documentedAt cs index = true ↔
      ∃ i k, Stands "/**" cs i ∧ Stands "*/" cs k ∧ i + 3 ≤ k ∧ k + 2 ≤ index := by
  have hopener : "/**".toList.length = 3 := rfl
  have hcloser : "*/".toList.length = 2 := rfl
  simp only [documentedAt, holdsComment_iff, stands_take_iff (by decide : "/**" ≠ ""),
    stands_take_iff (by decide : "*/" ≠ ""), hopener, hcloser]
  constructor
  · rintro ⟨i, k, ⟨hopen, -⟩, ⟨hclose, hle⟩, hbehind⟩
    exact ⟨i, k, hopen, hclose, hbehind, hle⟩
  · rintro ⟨i, k, hopen, hclose, hbehind, hle⟩
    exact ⟨i, k, ⟨hopen, by omega⟩, ⟨hclose, hle⟩, hbehind⟩

/-- Before an index stands a whole comment exactly if the first one of the text ends there. -/
theorem documentedAt_iff {cs : List Char} {index : Nat} :
    documentedAt cs index = true ↔ ∃ start stop, FirstComment cs start stop ∧ stop ≤ index := by
  rw [documentedAt_iff_stands]
  constructor
  · rintro ⟨i, k, hopen, hclose, hbehind, hle⟩
    obtain ⟨start, stop, hfirst⟩ := FirstComment.exists_of_stands hopen hclose hbehind
    exact ⟨start, stop, hfirst, Nat.le_trans (hfirst.le hopen hclose hbehind) hle⟩
  · rintro ⟨start, stop, hfirst, hle⟩
    have hbehind := hfirst.behind
    exact ⟨start, stop - 2, hfirst.opened, hfirst.closed, by omega, by omega⟩

/-- There are comments exactly if there is a first one. -/
theorem docComments_ne_nil_iff {cs : List Char} :
    docComments cs ≠ [] ↔ ∃ start stop, FirstComment cs start stop := by
  constructor
  · intro hne
    obtain ⟨text, htext⟩ := List.exists_mem_of_ne_nil _ hne
    obtain ⟨found, hfound, -⟩ := List.mem_map.mp htext
    obtain ⟨n, hcomment⟩ := recognised_of_mem_findAll hfound
    obtain ⟨-, hopen, k, hk, -, hclose⟩ := of_docComment hcomment
    exact FirstComment.exists_of_stands hopen (stands_add_iff.mpr hclose) (by omega)
  · rintro ⟨start, stop, hfirst⟩ hnil
    have hhead := hfirst.head?_docComments
    rw [hnil] at hhead
    cases hhead

/-! ## Documented functions and classes -/

/-- The indices at which the constructs of a kind start. -/
def starts {α : Type} (recognise : Recogniser α) (cs : List Char) : List Nat :=
  (findAll recognise cs).map (·.1)

/-- The functions and classes of a script in the order of the text: where each of them starts, and
whether the outline has it as documented. -/
def Outline.inOrder (o : Outline) (cs : List Char) : List (Nat × Bool) :=
  ((starts functionHead cs).zip (o.functions.map (·.documented))).merge
    ((starts classHead cs).zip (o.classes.map (·.documented))) fun a b => a.1 ≤ b.1

/-- Finds with whether a comment stands before them. -/
def marked {α : Type} (cs : List Char) (found : List (Nat × α)) : List (Nat × Bool) :=
  found.map fun e => (e.1, documentedAt cs e.1)

theorem inOrder_outline (cs : List Char) :
    (outline cs).inOrder cs =
      (marked cs (findAll functionHead cs)).merge (marked cs (findAll classHead cs))
        fun a b => a.1 ≤ b.1 := by
  simp only [Outline.inOrder, outline, starts, marked, List.map_map, List.zip_map',
    Function.comp_def]

theorem pairwise_marked {α : Type} (recognise : Recogniser α) (cs : List Char) :
    (marked cs (findAll recognise cs)).Pairwise fun a b => decide (a.1 ≤ b.1) = true := by
  rw [marked, List.pairwise_map]
  exact (pairwise_findAll recognise cs).imp fun hlt => decide_eq_true (Nat.le_of_lt hlt)

theorem pairwise_inOrder (cs : List Char) :
    ((outline cs).inOrder cs).Pairwise fun a b => a.1 ≤ b.1 := by
  rw [inOrder_outline]
  refine (List.pairwise_merge ?_ ?_ _ _ (pairwise_marked _ cs) (pairwise_marked _ cs)).imp
    of_decide_eq_true
  · intro a b c hab hbc
    exact decide_eq_true (Nat.le_trans (of_decide_eq_true hab) (of_decide_eq_true hbc))
  · intro a b
    rw [Bool.or_eq_true, decide_eq_true_eq, decide_eq_true_eq]
    exact Nat.le_total a.1 b.1

theorem documented_of_mem_inOrder {cs : List Char} {e : Nat × Bool}
    (h : e ∈ (outline cs).inOrder cs) : e.2 = documentedAt cs e.1 := by
  rw [inOrder_outline, List.mem_merge] at h
  rcases h with h | h <;> obtain ⟨found, -, rfl⟩ := List.mem_map.mp h <;> rfl

/-- For every script: there are comments if and only if there is a first one, which then heads their
list; every function and class is listed, each as documented if and only if there are comments and
the first one ends at or before the start of the function or class; and in the order of the text no
function or class that is not documented follows one that is. -/
theorem documented_iff_behind_first_comment (format : Format) (content : String) :
    let cs := content.toList
    ∃ o, scriptStructure format (.text content) = .outlined format o ∧
      (o.comments ≠ [] ↔ ∃ start stop, FirstComment cs start stop ∧
        o.comments.head? = some (String.ofList ((cs.drop start).take (stop - start)))) ∧
      o.functions.length = (starts functionHead cs).length ∧
      o.classes.length = (starts classHead cs).length ∧
      (∀ e ∈ o.inOrder cs, e.2 = true ↔
        o.comments ≠ [] ∧ ∃ start stop, FirstComment cs start stop ∧ stop ≤ e.1) ∧
      (o.inOrder cs).Pairwise fun a b => a.1 ≤ b.1 ∧ (a.2 = true → b.2 = true) := by
  intro cs
  have hcomments : (outline cs).comments ≠ [] ↔ ∃ start stop, FirstComment cs start stop := by
    rw [← docComments_ne_nil_iff, outline, ne_eq, List.map_eq_nil_iff]
  refine ⟨outline cs, rfl, ?_, by simp [outline, starts], by simp [outline, starts], ?_, ?_⟩
  · rw [hcomments]
    refine exists_congr fun start => exists_congr fun stop => (and_iff_left_of_imp ?_).symm
    intro hfirst
    rw [outline, List.head?_map, hfirst.head?_docComments, Option.map_some]
  · intro e he
    rw [documented_of_mem_inOrder he, documentedAt_iff, hcomments]
    refine ⟨?_, And.right⟩
    rintro ⟨start, stop, hfirst, hle⟩
    exact ⟨⟨start, stop, hfirst⟩, start, stop, hfirst, hle⟩
  · refine (pairwise_inOrder cs).imp_of_mem ?_
    intro a b ha hb hle
    refine ⟨hle, ?_⟩
    rw [documented_of_mem_inOrder ha, documented_of_mem_inOrder hb, documentedAt_iff,
      documentedAt_iff]
    rintro ⟨start, stop, hfirst, hstop⟩
    exact ⟨start, stop, hfirst, Nat.le_trans hstop hle⟩

/-- A script with a function before its comment and a class and a function behind it. -/
def halfDocumented : String :=
  "function f() {}\n/** The rest. **/\nclass C {}\nconst g = x => x"

/-- The class and the second function are documented by the comment before the class. -/
theorem class_and_arrow_documented :
    (outline halfDocumented.toList).inOrder halfDocumented.toList =
        [(0, false), (34, true), (45, true)] ∧
      (∃ start stop, FirstComment halfDocumented.toList start stop ∧ stop ≤ 34) ∧
      ∃ start stop, FirstComment halfDocumented.toList start stop ∧ stop ≤ 45 := by
  have hfunctions : (starts functionHead halfDocumented.toList).zip
      ((outline halfDocumented.toList).functions.map (·.documented)) =
        [(0, false), (45, true)] := by
    decide +kernel
  have hclasses : (starts classHead halfDocumented.toList).zip
      ((outline halfDocumented.toList).classes.map (·.documented)) = [(34, true)] := by
    decide +kernel
  have horder : (outline halfDocumented.toList).inOrder halfDocumented.toList =
      [(0, false), (34, true), (45, true)] := by
    rw [Outline.inOrder, hfunctions, hclasses]
    simp
  obtain ⟨o, ho, -, -, -, hdocumented, -⟩ :=
    documented_iff_behind_first_comment .javascript halfDocumented
  obtain ⟨-, rfl⟩ := Structure.outlined.inj ho
  rw [horder] at hdocumented
  exact ⟨horder, ((hdocumented (34, true) (by simp)).mp rfl).2,
    ((hdocumented (45, true) (by simp)).mp rfl).2⟩

end Scriptorium.Source
