import Mathlib.Data.List.Induction
import Mathlib.Data.List.Lex
import Mathlib.Data.Prod.Lex
import Scriptorium.Proofs.Template.Copies
import Scriptorium.Proofs.Template.Listing
set_option autoImplicit false

/-!
# The order of templates

Templates are listed by type and then by name, both in the order of code points, and templates with
the same type and name in the order of the library.  That is the order in which their keys came in:
a key goes last when it is new, and stays where it is as long as its template is only replaced.
-/

namespace Scriptorium

/-! ## The order of texts -/

namespace Text

theorem Half.code_injective [Halves] : Function.Injective Half.code := by
  intro c d h
  have hc := Half.toNat_cases c
  have hd := Half.toNat_cases d
  unfold Half.code at h
  -- no character has the code point of a half
  cases hkept : Half.unit? c with
  | none =>
      cases hkept' : Half.unit? d with
      | none => simpa [hkept, hkept', Char.toNat_inj] using h
      | some unit =>
          obtain ⟨hlow, hhigh, -⟩ := Half.eq_of_unit? hkept'
          simp only [hkept, hkept', Option.getD_none, Option.getD_some] at h
          omega
  | some unit =>
      obtain ⟨hlow, hhigh, hchar⟩ := Half.eq_of_unit? hkept
      cases hkept' : Half.unit? d with
      | none =>
          simp only [hkept, hkept', Option.getD_none, Option.getD_some] at h
          omega
      | some unit' =>
          obtain ⟨-, -, hchar'⟩ := Half.eq_of_unit? hkept'
          simp only [hkept, hkept', Option.getD_some] at h
          rw [← hchar, h, hchar']

theorem codes_inj [Halves] {s t : String} : codes s = codes t ↔ s = t := by
  rw [codes, codes, List.map_inj_right fun _ _ h => Half.code_injective h, String.toList_inj]

end Text

theorem Value.less_text [Halves] (s t : String) :
    (Value.text s).less (.text t) = .ok (Text.precedes s t) := by
  rw [Value.less]

namespace Template

/-! ## Comparing templates -/

/-- The text of the type of a template. -/
def typeText (t : Template) : String := (t.category.toValue.text?).getD ""

/-- The text of the name of a template. -/
def nameText (t : Template) : String := (t.name.text?).getD ""

/-- The type and the name of a template are texts. -/
structure Titled (t : Template) : Prop where
  category : ∃ type, t.category.toValue = .text type
  name : ∃ name, t.name = .text name

/-- One template has the lesser type, or the same type and the lesser name, by code points. -/
def ComesBefore [Halves] (a b : Template) : Prop :=
  Text.codes a.typeText < Text.codes b.typeText ∨
    a.typeText = b.typeText ∧ Text.codes a.nameText < Text.codes b.nameText

/-- Whether a template has a type and a name. -/
def isTitled (type name : String) (t : Template) : Bool :=
  t.category.toValue.same (.text type) && t.name.same (.text name)

/-- What templates are sorted by. -/
def rank [Halves] (t : Template) : Lex (List Nat × List Nat) :=
  toLex (Text.codes t.typeText, Text.codes t.nameText)

theorem rank_lt_rank_iff [Halves] (a b : Template) : a.rank < b.rank ↔ a.ComesBefore b := by
  rw [rank, rank, Prod.Lex.toLex_lt_toLex, ComesBefore, Text.codes_inj]

/-- Comparing templates with texts for their types and names compares their ranks. -/
theorem before_eq [Halves] {a b : Template} (ha : a.Titled) (hb : b.Titled) :
    ∃ answer, Library.before a b = .ok answer ∧ (answer = true ↔ a.rank < b.rank) := by
  obtain ⟨⟨c, hc⟩, ⟨n, hn⟩⟩ := ha
  obtain ⟨⟨d, hd⟩, ⟨m, hm⟩⟩ := hb
  have hrank : a.rank < b.rank ↔
      Text.codes c < Text.codes d ∨ c = d ∧ Text.codes n < Text.codes m := by
    rw [rank_lt_rank_iff, ComesBefore]
    simp only [typeText, nameText, hc, hd, hn, hm, Value.text?, Option.getD_some]
  rw [hrank]
  simp only [Library.before, hc, hd, hn, hm, Value.less_text]
  by_cases hcd : c = d
  · subst hcd
    rw [if_pos ((Value.text_same_iff _ c).mpr rfl)]
    by_cases hnm : n = m
    · subst hnm
      rw [if_pos ((Value.text_same_iff _ n).mpr rfl)]
      exact ⟨false, rfl, by simp⟩
    · rw [if_neg fun hsame => hnm (Value.text.inj ((Value.text_same_iff _ n).mp hsame))]
      exact ⟨_, rfl, by simp [Text.precedes]⟩
  · rw [if_neg fun hsame => hcd (Value.text.inj ((Value.text_same_iff _ c).mp hsame))]
    exact ⟨_, rfl, by simp [Text.precedes, hcd]⟩

theorem isTitled_iff (type name : String) (t : Template) :
    t.isTitled type name = true ↔ t.category.toValue = .text type ∧ t.name = .text name := by
  rw [isTitled, Bool.and_eq_true, Value.same_text_iff, Value.same_text_iff]

/-- Templates with one type and one name have one rank. -/
theorem oneKey_isTitled [Halves] (type name : String) :
    Sorting.OneKey rank (isTitled type name) := by
  intro a b ha hb
  rw [isTitled_iff] at ha hb
  simp only [rank, typeText, nameText, ha, hb]

/-- The list of templates is there, sorted, and stable. -/
theorem Library.list_eq [Halves] {lib : Library} {category : Option String} {withDefaults : Bool}
    (htitled : ∀ t ∈ lib.matching category withDefaults, t.Titled) :
    ∃ found, lib.list category withDefaults = .ok found ∧
      found.Perm (lib.matching category withDefaults) ∧
      found.Pairwise (fun a b => ¬b.ComesBefore a) ∧
      ∀ type name, found.filter (isTitled type name) =
        (lib.matching category withDefaults).filter (isTitled type name) := by
  have hcompares : Sorting.ComparesBy Library.before rank (lib.matching category withDefaults) :=
    fun a ha b hb => before_eq (htitled a ha) (htitled b hb)
  obtain ⟨found, hsort, hperm, hsorted⟩ := Sorting.sort_by_key hcompares
  refine ⟨found, (lib.list_eq_sort category withDefaults).trans hsort, hperm, ?_, ?_⟩
  · refine hsorted.sorted.imp fun hab => ?_
    rw [← rank_lt_rank_iff]
    exact not_lt.mpr hab
  · intro type name
    exact hsorted.stable _ (oneKey_isTitled type name)

/-! ## The order of keys -/

namespace Library

/-- A key that is there keeps its place, a new one goes last. -/
theorem keys_put (lib : Library) (key : Value) (t : Template) :
    (lib.put key t).keys =
      if (lib.get? key).isSome then lib.keys else lib.keys ++ [key] := by
  cases hget : lib.get? key with
  | none =>
      rw [put_of_get?_eq_none hget]
      simp [keys]
  | some old =>
      obtain ⟨front, k, rest, hentries, hsame, hfront⟩ := split_of_get? hget
      rw [put, hentries, putIn_split hfront hsame]
      simp [keys, hentries]

end Library

namespace Shelf

/-- A request keeps keys in their order, or lets one key more come in last. -/
theorem keys_answer [Halves] (s : Shelf) (now : Stamp) (request : Request) :
    (s.answer now request).1.library.keys.Sublist s.library.keys ∨
      ∃ key, s.library.get? key = none ∧
        (s.answer now request).1.library.keys = s.library.keys ++ [key] := by
  have hchange := change_answer s now request
  generalize (s.answer now request).1.library = after at hchange ⊢
  cases hchange with
  | nothing => exact .inl (List.Sublist.refl _)
  | written key t =>
      rw [Library.keys_put]
      cases hget : s.library.get? key with
      | none => exact .inr ⟨key, hget, rfl⟩
      | some old => exact .inl (List.Sublist.refl _)
  | deleted => exact .inl (List.filter_sublist.map _)

/-- The library after the first requests of a run. -/
def libraryAt [Halves] (s : Shelf) (requests : List (Stamp × Request)) (n : Nat) : Library :=
  (s.after (requests.take n)).library

/-- A key has been in the library since a moment of a run at which another one was not. -/
def Older [Halves] (s : Shelf) (requests : List (Stamp × Request)) (a b : Value) : Prop :=
  ∃ m ≤ requests.length, (s.libraryAt requests m).get? b = none ∧
    ∀ n, m ≤ n → a ∈ (s.libraryAt requests n).keys

section Snoc

variable {s : Shelf} {requests : List (Stamp × Request)} {asked : Stamp × Request}

theorem after_snoc [Halves] :
    s.after (requests ++ [asked]) = ((s.after requests).answer asked.1 asked.2).1 := by
  rw [after, List.foldl_append]
  rfl

theorem libraryAt_snoc_of_le [Halves] {n : Nat} (h : n ≤ requests.length) :
    s.libraryAt (requests ++ [asked]) n = s.libraryAt requests n := by
  rw [libraryAt, libraryAt, List.take_append_of_le_length h]

theorem libraryAt_of_length_le [Halves] {n : Nat} (h : requests.length ≤ n) :
    s.libraryAt requests n = (s.after requests).library := by
  rw [libraryAt, List.take_of_length_le h]

/-- A key that is older stays so as long as it is there. -/
theorem Older.snoc [Halves] {a b : Value} (h : s.Older requests a b)
    (hstays : a ∈ (s.after (requests ++ [asked])).library.keys) :
    s.Older (requests ++ [asked]) a b := by
  obtain ⟨m, hm, habsent, hthere⟩ := h
  refine ⟨m, by simp; omega, by rwa [libraryAt_snoc_of_le hm], ?_⟩
  intro n hn
  by_cases hlast : n ≤ requests.length
  · rw [libraryAt_snoc_of_le hlast]
    exact hthere n hn
  · rw [libraryAt_of_length_le (by simp; omega)]
    exact hstays

/-- Every key that was there before is older than one that comes in. -/
theorem older_of_new [Halves] {a b : Value} (hold : a ∈ (s.after requests).library.keys)
    (hnew : (s.after requests).library.get? b = none)
    (hstays : a ∈ (s.after (requests ++ [asked])).library.keys) :
    s.Older (requests ++ [asked]) a b := by
  have hbefore : s.libraryAt (requests ++ [asked]) requests.length =
      (s.after requests).library := by
    rw [libraryAt_snoc_of_le (Nat.le_refl _), libraryAt_of_length_le (Nat.le_refl _)]
  refine ⟨requests.length, by simp, by rwa [hbefore], ?_⟩
  intro n hn
  rcases Nat.eq_or_lt_of_le hn with rfl | hlater
  · rwa [hbefore]
  · rwa [libraryAt_of_length_le (by simp; omega)]

end Snoc

/-- After every run the keys stand in the order in which they came in. -/
theorem keys_in_order_of_entry [Halves] (s : Shelf) (requests : List (Stamp × Request)) :
    (s.after requests).library.keys.Pairwise fun a b =>
      s.Older requests a b ∨ [a, b].Sublist s.library.keys := by
  induction requests using List.reverseRecOn with
  | nil => exact List.pairwise_iff_forall_sublist.mpr fun hsub => .inr hsub
  | append_singleton requests asked ih =>
      have hkept : ∀ keys : List Value, keys.Sublist (s.after requests).library.keys →
          (∀ a ∈ keys, a ∈ (s.after (requests ++ [asked])).library.keys) →
          keys.Pairwise fun a b =>
            s.Older (requests ++ [asked]) a b ∨ [a, b].Sublist s.library.keys := by
        intro keys hsub hstay
        refine (ih.sublist hsub).imp_of_mem fun ha _ hab => ?_
        exact hab.imp_left fun holder => holder.snoc (hstay _ ha)
      rcases keys_answer (s.after requests) asked.1 asked.2 with hsub | ⟨key, hnew, hkeys⟩
      · rw [← after_snoc] at hsub
        exact hkept _ hsub fun a ha => ha
      · rw [← after_snoc] at hkeys
        have hstay : ∀ a ∈ (s.after requests).library.keys,
            a ∈ (s.after (requests ++ [asked])).library.keys := by
          intro a ha
          rw [hkeys]
          exact List.mem_append_left _ ha
        rw [hkeys, List.pairwise_append]
        refine ⟨hkept _ (List.Sublist.refl _) hstay, List.pairwise_singleton _ _, ?_⟩
        intro a ha b hb
        obtain rfl := List.mem_singleton.mp hb
        exact .inl (older_of_new ha hnew (hstay a ha))

end Shelf

/-- On every shelf, after any requests, if types and names are texts: the list of templates has just
those that match, sorted by type and then by name in the order of code points, and those with the
same type and name in the order of the library.  The keys of the library stand in the order in
which they came in: of two keys the first has been there since a moment at which the second was not,
or both have stood so from the start. -/
theorem templates_listed_in_order [Halves] (s : Shelf) (requests : List (Stamp × Shelf.Request))
    (htitled : ∀ t ∈ (s.after requests).library.templates, t.Titled) (category : Option String)
    (withDefaults : Bool) :
    let lib := (s.after requests).library
    let chosen := lib.templates.filter fun t =>
      (category.all fun type => t.category.toValue.same (.text type)) &&
        (withDefaults || !t.isDefault.truthy)
    (∃ found, lib.list category withDefaults = .ok found ∧ found.Perm chosen ∧
      found.Pairwise (fun a b => ¬b.ComesBefore a) ∧
      ∀ type name, found.filter (isTitled type name) = chosen.filter (isTitled type name)) ∧
    lib.keys.Pairwise fun a b => s.Older requests a b ∨ [a, b].Sublist s.library.keys := by
  intro lib chosen
  have hchosen : ∀ t ∈ lib.matching category withDefaults, t.Titled :=
    fun t ht => htitled t (List.mem_filter.mp ht).1
  exact ⟨Library.list_eq hchosen, Shelf.keys_in_order_of_entry s requests⟩

/-- The first moment. -/
def dawn : Stamp := ⟨0, none⟩

theorem after_copyOfStandard [Halves] (name : String) :
    ((Shelf.start dawn).after [(dawn, copyOfStandard name)]).library.templates =
      (Library.start dawn).templates ++
        [(Library.standardRequirements dawn).copied (.text name) (.text "") .null dawn] := by
  have hanswer := Shelf.answer_copy_of_free (find_start dawn) (nil_notMem_keys_start dawn)
    (.text name) (.text "") .null dawn
  rw [Shelf.after, List.foldl_cons, List.foldl_nil, copyOfStandard]
  dsimp only
  rw [hanswer]
  simp only [Library.templates, Shelf.start, List.map_append, List.map_cons, List.map_nil]

section

open scoped Halves.Plain

/-- A copy with the name of its source is listed behind it. -/
theorem copy_listed_behind_source :
    let lib := ((Shelf.start dawn).after [(dawn, copyOfStandard "Standard SRS")]).library
    (∀ t ∈ lib.templates, t.Titled) ∧
      ∃ found, lib.list none true = .ok found ∧
        found.filter (isTitled "srs" "Standard SRS") =
          [Library.standardRequirements dawn,
            (Library.standardRequirements dawn).copied (.text "Standard SRS") (.text "") .null
              dawn] := by
  intro lib
  have htemplates := after_copyOfStandard "Standard SRS"
  have htitled : ∀ t ∈ lib.templates, t.Titled := by
    rw [htemplates]
    simp only [Library.start, Library.templates, List.map_cons, List.map_nil, List.cons_append,
      List.nil_append, List.forall_mem_cons]
    exact ⟨⟨⟨_, rfl⟩, ⟨_, rfl⟩⟩, ⟨⟨_, rfl⟩, ⟨_, rfl⟩⟩, ⟨⟨_, rfl⟩, ⟨_, rfl⟩⟩, by simp⟩
  obtain ⟨⟨found, hlist, -, -, hstable⟩, -⟩ :=
    templates_listed_in_order (Shelf.start dawn) [(dawn, copyOfStandard "Standard SRS")] htitled
      none true
  refine ⟨htitled, found, hlist, ?_⟩
  rw [hstable, htemplates]
  rfl

end

end Template

end Scriptorium
