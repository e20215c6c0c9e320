import Scriptorium.Proofs.Fields
import Scriptorium.Proofs.Number
import Scriptorium.Proofs.Outcome
import Scriptorium.Template.Library
set_option autoImplicit false

/-!
# The library as a store

In a library that is kept in order every template stands under its own identifier, and no
identifier twice.  Writing a template replaces one entry where it stands or adds one at the end,
deleting takes one entry out, and every other entry stays as it is.
-/

namespace Scriptorium.Template.Library

/-- Every template stands under its own identifier, and no identifier stands twice. -/
structure Keyed (lib : Library) : Prop where
  own : ∀ entry ∈ lib.entries, ∃ i, entry.1 = .ident i ∧ entry.2.id = .ident i
  once : lib.keys.Nodup

theorem same_ident_iff (i j : Ident) : (Value.ident i).same (.ident j) = true ↔ i = j := by
  rw [Value.same_ident_iff, Value.ident.injEq]

/-! ## Finding -/

theorem readId_ident [Halves] {i : Ident} (h : (Ident.read i.text).toOption = some i) :
    readId (.ident i) = .ok i := by
  have hshown : (Value.ident i).shown = i.text := rfl
  rw [readId, hshown, Outcome.eq_ok_of_toOption h]

theorem readId_nil [Halves] : readId (.ident .nil) = .ok .nil := readId_ident (by decide +kernel)

/-- A template that is found stands behind entries with other keys. -/
theorem split_of_get? {lib : Library} {key : Value} {t : Template} (h : lib.get? key = some t) :
    ∃ front k rest, lib.entries = front ++ (k, t) :: rest ∧ k.same key = true ∧
      ∀ entry ∈ front, entry.1.same key = false := by
  obtain ⟨⟨k, found⟩, hfind, rfl⟩ := Option.map_eq_some_iff.mp h
  obtain ⟨hsame, front, rest, hentries, hfront⟩ := List.find?_eq_some_iff_append.mp hfind
  refine ⟨front, k, rest, hentries, by simpa using hsame, ?_⟩
  intro entry hentry
  simpa using hfront entry hentry

theorem get?_eq_none_iff (lib : Library) (key : Value) :
    lib.get? key = none ↔ ∀ entry ∈ lib.entries, entry.1.same key = false := by
  simp [get?]

namespace Keyed

variable {lib : Library} (hkeyed : lib.Keyed)

include hkeyed

/-- A template that is found has the identifier by which it is found. -/
theorem split {i : Ident} {t : Template} (h : lib.get? (.ident i) = some t) :
    t.id = .ident i ∧ ∃ front rest, lib.entries = front ++ (.ident i, t) :: rest ∧
      ∀ entry ∈ front, entry.1.same (.ident i) = false := by
  obtain ⟨front, k, rest, hentries, hsame, hfront⟩ := split_of_get? h
  obtain ⟨j, hkey, hid⟩ := hkeyed.own (k, t) (by simp [hentries])
  simp only at hkey hid
  subst hkey
  obtain rfl := (same_ident_iff j i).mp hsame
  exact ⟨hid, front, rest, hentries, hfront⟩

end Keyed

/-! ## Writing and deleting -/

theorem putIn_split {key k : Value} {t t' : Template} {front rest : List (Value × Template)}
    (hfront : ∀ entry ∈ front, entry.1.same key = false) (hsame : k.same key = true) :
    putIn key t' (front ++ (k, t) :: rest) = front ++ (k, t') :: rest := by
  induction front with
  | nil => simp [putIn, hsame]
  | cons head tail ih =>
      obtain ⟨first, old⟩ := head
      have hother : first.same key = false := hfront (first, old) List.mem_cons_self
      have htail := ih fun entry hentry => hfront entry (List.mem_cons_of_mem _ hentry)
      simp [putIn, hother, htail]

/-- A template under a key that is not there goes last. -/
theorem put_of_get?_eq_none {lib : Library} {key : Value} (h : lib.get? key = none)
    (t : Template) : lib.put key t = ⟨lib.entries ++ [(key, t)]⟩ := by
  have hothers := (get?_eq_none_iff lib key).mp h
  have hput : ∀ entries : List (Value × Template),
      (∀ entry ∈ entries, entry.1.same key = false) →
        putIn key t entries = entries ++ [(key, t)] := by
    intro entries hentries
    induction entries with
    | nil => rfl
    | cons head tail ih =>
        obtain ⟨first, old⟩ := head
        have hother : first.same key = false := hentries (first, old) List.mem_cons_self
        have htail := ih fun entry hentry => hentries entry (List.mem_cons_of_mem _ hentry)
        simp [putIn, hother, htail]
  rw [put, hput lib.entries hothers]

namespace Keyed

variable {lib : Library} (hkeyed : lib.Keyed)

include hkeyed

/-- Writing under an identifier that is there replaces its template where it stands. -/
theorem put_split {i : Ident} {t : Template} (h : lib.get? (.ident i) = some t) :
    t.id = .ident i ∧ ∃ front rest, lib.entries = front ++ (.ident i, t) :: rest ∧
      ∀ t', lib.put (.ident i) t' = ⟨front ++ (.ident i, t') :: rest⟩ := by
  obtain ⟨hid, front, rest, hentries, hfront⟩ := hkeyed.split h
  refine ⟨hid, front, rest, hentries, ?_⟩
  intro t'
  have hsame := (same_ident_iff i i).mpr rfl
  rw [put, hentries, putIn_split hfront hsame]

/-- Deleting an identifier that is there takes its entry out. -/
theorem delete_split {i : Ident} {t : Template} (h : lib.get? (.ident i) = some t) :
    t.id = .ident i ∧ ∃ front rest, lib.entries = front ++ (.ident i, t) :: rest ∧
      lib.entries.filter (fun entry => !entry.1.same (.ident i)) = front ++ rest := by
  obtain ⟨hid, front, rest, hentries, hfront⟩ := hkeyed.split h
  have honce : (lib.entries.map (·.1)).Nodup := hkeyed.once
  rw [hentries, List.map_append, List.map_cons, List.nodup_append] at honce
  have hrest : ∀ entry ∈ rest, entry.1.same (.ident i) = false := by
    intro entry hentry
    obtain ⟨j, hkey, -⟩ := hkeyed.own entry (by simp [hentries, hentry])
    have hne : j ≠ i := by
      rintro rfl
      exact (List.nodup_cons.mp honce.2.1).1 (List.mem_map.mpr ⟨entry, hentry, hkey⟩)
    rw [hkey, Bool.eq_false_iff]
    exact fun hsame => hne ((same_ident_iff j i).mp hsame)
  have hself : (Value.ident i).same (.ident i) = true := (same_ident_iff i i).mpr rfl
  refine ⟨hid, front, rest, hentries, ?_⟩
  rw [hentries, List.filter_append, List.filter_cons_of_neg (by simp [hself])]
  rw [List.filter_eq_self.mpr fun entry hentry => by simp [hfront entry hentry],
    List.filter_eq_self.mpr fun entry hentry => by simp [hrest entry hentry]]

end Keyed

/-! ## Staying in order -/

theorem Keyed.add {lib : Library} (hkeyed : lib.Keyed) {i : Ident} {t : Template}
    (hid : t.id = .ident i) (hfree : lib.get? (.ident i) = none) :
    Keyed ⟨lib.entries ++ [(.ident i, t)]⟩ := by
  constructor
  · intro entry hentry
    rcases List.mem_append.mp hentry with hold | hnew
    · exact hkeyed.own entry hold
    · obtain rfl := List.mem_singleton.mp hnew
      exact ⟨i, rfl, hid⟩
  · have hothers := (get?_eq_none_iff lib (.ident i)).mp hfree
    simp only [keys, List.map_append, List.map_cons, List.map_nil]
    refine List.nodup_append.mpr ⟨hkeyed.once, by simp, ?_⟩
    intro key hkey last hlast heq
    obtain ⟨entry, hentry, rfl⟩ := List.mem_map.mp hkey
    obtain rfl := List.mem_singleton.mp hlast
    have hself : (Value.ident i).same (.ident i) = true := (same_ident_iff i i).mpr rfl
    have hother := hothers entry hentry
    rw [heq, hself] at hother
    cases hother

theorem Keyed.replace {front rest : List (Value × Template)} {i : Ident} {t t' : Template}
    (hkeyed : Keyed ⟨front ++ (.ident i, t) :: rest⟩) (hid : t'.id = .ident i) :
    Keyed ⟨front ++ (.ident i, t') :: rest⟩ := by
  constructor
  · intro entry hentry
    rcases List.mem_append.mp hentry with hfront | hlater
    · exact hkeyed.own entry (by simp [hfront])
    · rcases List.mem_cons.mp hlater with rfl | hrest
      · exact ⟨i, rfl, hid⟩
      · exact hkeyed.own entry (by simp [hrest])
  · have honce := hkeyed.once
    simp only [keys, List.map_append, List.map_cons] at honce ⊢
    exact honce

theorem Keyed.remove {front rest : List (Value × Template)} {entry : Value × Template}
    (hkeyed : Keyed ⟨front ++ entry :: rest⟩) : Keyed ⟨front ++ rest⟩ := by
  have hsub : (front ++ rest).Sublist (front ++ entry :: rest) :=
    (List.Sublist.refl front).append (List.sublist_cons_self entry rest)
  constructor
  · intro other hother
    exact hkeyed.own other (hsub.subset hother)
  · exact (hsub.map Prod.fst).nodup hkeyed.once

/-- A new library is in order. -/
theorem keyed_start (now : Stamp) : (start now).Keyed := by
  constructor
  · intro entry hentry
    simp only [start, List.mem_cons, List.not_mem_nil, or_false] at hentry
    rcases hentry with rfl | rfl
    · exact ⟨Ident.ofSupply 1, rfl, rfl⟩
    · exact ⟨Ident.ofSupply 2, rfl, rfl⟩
  · have hne : Ident.ofSupply 1 ≠ Ident.ofSupply 2 := by decide
    simp [keys, start, defaultTemplate, hne]

/-- The default requirements specification, which is the first template of a new library. -/
def standardRequirements (now : Stamp) : Template :=
  defaultTemplate (Ident.ofSupply 1) "Standard SRS"
    "Default Software Requirements Specification template" "srs" introduction now

theorem find_standardRequirements [Halves] (now : Stamp) :
    (start now).find (.ident (Ident.ofSupply 1)) = .ok (some (standardRequirements now)) := by
  have hread : readId (.ident (Ident.ofSupply 1)) = .ok (Ident.ofSupply 1) :=
    readId_ident (by decide +kernel)
  have hget : (start now).get? (.ident (Ident.ofSupply 1)) = some (standardRequirements now) := by
    simp [get?, start, standardRequirements, defaultTemplate, same_ident_iff]
  rw [find, hread]
  exact congrArg Except.ok hget

end Scriptorium.Template.Library
