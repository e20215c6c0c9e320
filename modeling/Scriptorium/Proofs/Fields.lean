import Scriptorium.Value
set_option autoImplicit false

/-!
# Laws of named fields

What writing and removing a field does to the names, to the entries and to every lookup.  The
values may be of any type, so the laws hold of records as well as of registers that are kept as
named fields.
-/

namespace Scriptorium.Fields

variable {α β : Type}

/-! ## Lookups and names -/

theorem get?_eq_none_iff (fields : List (String × α)) (name : String) :
    get? fields name = none ↔ name ∉ names fields := by
  simp only [get?, names, Option.map_eq_none_iff, List.find?_eq_none, beq_iff_eq, List.mem_map,
    not_exists, not_and]

theorem mem_names_iff (fields : List (String × α)) (name : String) :
    name ∈ names fields ↔ ∃ value, get? fields name = some value := by
  rw [← Option.ne_none_iff_exists', ne_eq, get?_eq_none_iff, Classical.not_not]

theorem has_eq_true_iff (fields : List (String × α)) (name : String) :
    has fields name = true ↔ name ∈ names fields := by
  simp only [has, names, List.any_eq_true, beq_iff_eq, List.mem_map]

theorem has_eq_isSome_get? (fields : List (String × α)) (name : String) :
    has fields name = (get? fields name).isSome := by
  rw [has, get?, Option.isSome_map, Bool.eq_iff_iff, List.find?_isSome, List.any_eq_true]

/-- A value that is looked up stands under its name. -/
theorem mem_of_get?_eq_some {fields : List (String × α)} {name : String} {value : α}
    (h : get? fields name = some value) : (name, value) ∈ fields := by
  obtain ⟨⟨key, found⟩, hfind, hvalue⟩ := Option.map_eq_some_iff.mp h
  have hkey : key = name := by simpa using List.find?_some hfind
  have hmem := List.mem_of_find?_eq_some hfind
  simp only at hvalue
  rwa [hkey, hvalue] at hmem

theorem mem_names_of_mem {fields : List (String × α)} {name : String} {value : α}
    (h : (name, value) ∈ fields) : name ∈ names fields :=
  List.mem_map.mpr ⟨(name, value), h, rfl⟩

theorem get?_cons (key name : String) (value : α) (rest : List (String × α)) :
    get? ((key, value) :: rest) name = if key = name then some value else get? rest name := by
  by_cases hkey : key = name <;> simp [get?, hkey]

/-- A lookup in joined fields takes the first ones first. -/
theorem get?_append (first second : List (String × α)) (name : String) :
    get? (first ++ second) name = (get? first name).or (get? second name) := by
  simp only [get?, List.find?_append]
  cases first.find? (·.1 == name) <;> rfl

/-- Where no name stands twice, every entry is the one that a lookup finds. -/
theorem get?_eq_some_iff_mem {fields : List (String × α)} (hnodup : (names fields).Nodup)
    (name : String) (value : α) : get? fields name = some value ↔ (name, value) ∈ fields := by
  refine ⟨mem_of_get?_eq_some, ?_⟩
  intro hmem
  induction fields with
  | nil => simp at hmem
  | cons head rest ih =>
      obtain ⟨key, old⟩ := head
      simp only [names, List.map_cons, List.nodup_cons] at hnodup
      rcases List.mem_cons.mp hmem with heq | hrest
      · obtain ⟨rfl, rfl⟩ := Prod.mk.inj heq
        simp [get?]
      · have hne : key ≠ name := by
          rintro rfl
          exact hnodup.1 (mem_names_of_mem hrest)
        have htail := ih hnodup.2 hrest
        simpa [get?, hne] using htail

/-! ## Writing -/

theorem mem_names_put (fields : List (String × α)) (name other : String) (value : α) :
    other ∈ names (put fields name value) ↔ other = name ∨ other ∈ names fields := by
  by_cases hmem : name ∈ names fields
  · rw [names_put_of_mem fields value hmem]
    constructor
    · exact Or.inr
    · rintro (rfl | hother)
      · exact hmem
      · exact hother
  · rw [names_put_of_not_mem fields value hmem, List.mem_append, List.mem_singleton, or_comm]

/-- Writing the same name into two records of the same names leaves them with the same names, in
the same order. -/
theorem names_put_congr {left : List (String × α)} {right : List (String × β)}
    (h : names left = names right) (name : String) (x : α) (y : β) :
    names (put left name x) = names (put right name y) := by
  by_cases hmem : name ∈ names left
  · rw [names_put_of_mem left x hmem, names_put_of_mem right y (h ▸ hmem), h]
  · rw [names_put_of_not_mem left x hmem, names_put_of_not_mem right y (h ▸ hmem), h]

/-- A field that is not there goes last. -/
theorem put_of_not_mem {fields : List (String × α)} {name : String} (h : name ∉ names fields)
    (value : α) : put fields name value = fields ++ [(name, value)] := by
  induction fields with
  | nil => rfl
  | cons head rest ih =>
      obtain ⟨key, old⟩ := head
      simp only [names, List.map_cons, List.mem_cons, not_or] at h
      have hne : (key == name) = false := by simpa using Ne.symm h.1
      simp only [put, hne, Bool.false_eq_true, if_false, ih h.2, List.cons_append]

theorem nodup_names_put {fields : List (String × α)} (h : (names fields).Nodup) (name : String)
    (value : α) : (names (put fields name value)).Nodup := by
  by_cases hmem : name ∈ names fields
  · rwa [names_put_of_mem fields value hmem]
  · rw [names_put_of_not_mem fields value hmem, List.nodup_append]
    refine ⟨h, by simp, ?_⟩
    rintro other hother last hlast rfl
    exact hmem (List.mem_singleton.mp hlast ▸ hother)

theorem nodup_names_merge {fields : List (String × α)} (h : (names fields).Nodup)
    (more : List (String × α)) : (names (merge fields more)).Nodup := by
  induction more generalizing fields with
  | nil => exact h
  | cons head rest ih => exact ih (nodup_names_put h head.1 head.2)

theorem nodup_names_merge_nil (fields : List (String × α)) :
    (names (merge [] fields)).Nodup := by
  apply nodup_names_merge
  exact List.nodup_nil

/-- Every entry after writing was there before or is the one written. -/
theorem mem_put {fields : List (String × α)} {name : String} {value : α} {entry : String × α}
    (h : entry ∈ put fields name value) : entry = (name, value) ∨ entry ∈ fields := by
  induction fields with
  | nil => exact Or.inl (List.mem_singleton.mp h)
  | cons head rest ih =>
      obtain ⟨key, old⟩ := head
      by_cases hkey : key = name
      · subst hkey
        simp only [put, beq_self_eq_true, if_true, List.mem_cons] at h ⊢
        exact h.imp id Or.inr
      · simp only [put, beq_iff_eq, hkey, if_false, List.mem_cons] at h ⊢
        rcases h with hhead | hrest
        · exact Or.inr (Or.inl hhead)
        · exact (ih hrest).imp id Or.inr

/-- Every entry after merging was there before or was merged. -/
theorem mem_merge {fields more : List (String × α)} {entry : String × α}
    (h : entry ∈ merge fields more) : entry ∈ more ∨ entry ∈ fields := by
  induction more generalizing fields with
  | nil => exact Or.inr h
  | cons head rest ih =>
      rcases ih h with hrest | hput
      · exact Or.inl (List.mem_cons_of_mem head hrest)
      · rcases mem_put hput with rfl | hold
        · exact Or.inl List.mem_cons_self
        · exact Or.inr hold

/-- Fields of different names are appended as they stand. -/
theorem merge_eq_append {fields more : List (String × α)} (h : (names (fields ++ more)).Nodup) :
    merge fields more = fields ++ more := by
  induction more generalizing fields with
  | nil => exact (List.append_nil fields).symm
  | cons head rest ih =>
      have happend : fields ++ head :: rest = fields ++ [head] ++ rest := by simp
      have hnew : head.1 ∉ names fields := by
        simp only [names, List.map_append, List.map_cons] at h ⊢
        intro hmem
        exact (List.nodup_append.mp h).2.2 _ hmem _ List.mem_cons_self rfl
      have hput : put fields head.1 head.2 = fields ++ [head] := put_of_not_mem hnew head.2
      have hstep : merge fields (head :: rest) = merge (fields ++ [head]) rest := by
        rw [← hput]
        rfl
      rw [hstep, happend]
      exact ih (happend ▸ h)

/-- Of two values written under one name the later stands. -/
theorem put_put (fields : List (String × α)) (name : String) (first second : α) :
    put (put fields name first) name second = put fields name second := by
  induction fields with
  | nil => simp [put]
  | cons head rest ih =>
      obtain ⟨key, old⟩ := head
      by_cases hkey : key = name
      · simp [put, hkey]
      · simp [put, hkey, ih]

/-- Writing the value that stands under a name changes nothing. -/
theorem put_of_get?_eq_some {fields : List (String × α)} {name : String} {value : α}
    (h : get? fields name = some value) : put fields name value = fields := by
  induction fields with
  | nil => simp [get?] at h
  | cons head rest ih =>
      obtain ⟨key, old⟩ := head
      by_cases hkey : key = name
      · have hold : old = value := by simpa [get?, hkey] using h
        simp [put, hkey, hold]
      · have hrest : get? rest name = some value := by simpa [get?, hkey] using h
        simp [put, hkey, ih hrest]

/-- Writing under a name that is there changes the one entry of this name. -/
theorem put_eq_map {fields : List (String × α)} (hnodup : (names fields).Nodup) {name : String}
    (hmem : name ∈ names fields) (value : α) :
    put fields name value =
      fields.map fun entry => (entry.1, if entry.1 = name then value else entry.2) := by
  induction fields with
  | nil => exact absurd hmem List.not_mem_nil
  | cons head rest ih =>
      obtain ⟨key, old⟩ := head
      obtain ⟨hkey, hrest⟩ := List.nodup_cons.mp hnodup
      by_cases hname : key = name
      · subst hname
        have hothers : (rest.map fun entry => (entry.1, if entry.1 = key then value else entry.2)) =
            rest := by
          refine (List.map_congr_left ?_).trans (List.map_id rest)
          intro entry hentry
          have hne : entry.1 ≠ key := by
            intro heq
            exact hkey (List.mem_map.mpr ⟨entry, hentry, heq⟩)
          simp [hne]
        simp [put, hothers]
      · have hlater : name ∈ names rest := (List.mem_cons.mp hmem).resolve_left (Ne.symm hname)
        simp [put, hname, ih hrest hlater]

/-- After merging, the last value written under a name stands, or else the one that was there. -/
theorem get?_merge (fields more : List (String × α)) (name : String) :
    get? (merge fields more) name =
      ((more.filter (·.1 == name)).getLast?.map (·.2)).or (get? fields name) := by
  induction more generalizing fields with
  | nil => rfl
  | cons head rest ih =>
      obtain ⟨key, value⟩ := head
      have hstep : get? (merge fields ((key, value) :: rest)) name =
          ((rest.filter (·.1 == name)).getLast?.map (·.2)).or
            (get? (put fields key value) name) := ih (put fields key value)
      rw [hstep]
      by_cases hkey : key = name
      · subst hkey
        rw [get?_put_self, List.filter_cons_of_pos (by simp), List.getLast?_cons]
        cases (rest.filter (·.1 == key)).getLast? with
        | none => rfl
        | some last => rfl
      · rw [get?_put_of_ne _ _ (Ne.symm hkey), List.filter_cons_of_neg (by simpa using hkey)]

/-- Merging keeps what is not written. -/
theorem get?_merge_of_not_mem (fields : List (String × α)) {more : List (String × α)}
    {name : String} (h : name ∉ names more) : get? (merge fields more) name = get? fields name := by
  have hnone : more.filter (·.1 == name) = [] := by
    rw [List.filter_eq_nil_iff]
    intro entry hentry heq
    exact h (List.mem_map.mpr ⟨entry, hentry, by simpa using heq⟩)
  rw [get?_merge, hnone]
  rfl

/-- After merging fields of different names, their values stand before those that were there. -/
theorem get?_merge_of_nodup (fields : List (String × α)) {more : List (String × α)}
    (h : (names more).Nodup) (name : String) :
    get? (merge fields more) name = (get? more name).or (get? fields name) := by
  induction more generalizing fields with
  | nil => rfl
  | cons head rest ih =>
      obtain ⟨key, value⟩ := head
      obtain ⟨hkey, hrest⟩ := List.nodup_cons.mp h
      have hstep : get? (merge fields ((key, value) :: rest)) name =
          (get? rest name).or (get? (put fields key value) name) := ih (put fields key value) hrest
      rw [hstep]
      by_cases hname : key = name
      · subst hname
        have habsent : get? rest key = none := (get?_eq_none_iff rest key).mpr hkey
        rw [habsent, get?_put_self]
        simp [get?]
      · rw [get?_put_of_ne _ _ (Ne.symm hname)]
        simp [get?, hname]

/-! ## Removing -/

theorem names_erase (fields : List (String × α)) (name : String) :
    names (erase fields name) = (names fields).filter (· != name) := by
  simp only [names, erase, List.filter_map]
  rfl

theorem mem_erase (fields : List (String × α)) (name : String) (entry : String × α) :
    entry ∈ erase fields name ↔ entry ∈ fields ∧ entry.1 ≠ name := by
  simp only [erase, List.mem_filter, bne_iff_ne]

theorem get?_erase_self (fields : List (String × α)) (name : String) :
    get? (erase fields name) name = none := by
  rw [get?_eq_none_iff, names_erase]
  simp

theorem get?_erase_of_ne (fields : List (String × α)) {name other : String} (h : other ≠ name) :
    get? (erase fields name) other = get? fields other := by
  have hsame : ∀ entry : String × α, (entry.1 == other) = true → (entry.1 != name) = true := by
    intro entry hentry
    rw [beq_iff_eq.mp hentry]
    exact bne_iff_ne.mpr h
  simp only [get?, erase, List.find?_filter]
  congr 2
  funext entry
  cases hother : entry.1 == other with
  | false => simp
  | true => simp [hsame entry hother]

end Scriptorium.Fields
