import Scriptorium.Proofs.Template.Step
import Scriptorium.Template.Shelf
set_option autoImplicit false

/-!
# Copies share one place

A copy is stored under the identifier without any bit.  So a copy is made exactly if that place is
free, and the next one has to wait until the place is given up again.  Only a deletion that names
the place gives it up: every other request keeps all keys of the library.
-/

namespace Scriptorium.Template

open Outcome

namespace Library

theorem get?_ident_eq_none_iff (lib : Library) (i : Ident) :
    lib.get? (.ident i) = none ↔ .ident i ∉ lib.keys := by
  simp only [get?_eq_none_iff, keys, List.mem_map, not_exists, not_and, Bool.eq_false_iff, ne_eq,
    Value.same_ident_iff]

/-! ## Keys that stay -/

theorem mem_keys_put {lib : Library} {kept : Value} (h : kept ∈ lib.keys) (key : Value)
    (t : Template) : kept ∈ (lib.put key t).keys := by
  obtain ⟨entries⟩ := lib
  simp only [keys, put] at h ⊢
  induction entries with
  | nil => cases h
  | cons head tail ih =>
      obtain ⟨first, old⟩ := head
      rw [putIn]
      split
      · exact h
      · rcases List.mem_cons.mp h with rfl | htail
        · exact List.mem_cons_self
        · exact List.mem_cons_of_mem _ (ih htail)

theorem mem_keys_filter {lib : Library} {kept : Value} (h : kept ∈ lib.keys) {i : Ident}
    (hother : kept ≠ .ident i) :
    kept ∈ keys ⟨lib.entries.filter fun entry => !entry.1.same (.ident i)⟩ := by
  obtain ⟨entry, hentry, rfl⟩ := List.mem_map.mp h
  refine List.mem_map.mpr ⟨entry, List.mem_filter.mpr ⟨hentry, ?_⟩, rfl⟩
  rw [Bool.not_eq_true', Bool.eq_false_iff]
  exact fun hsame => hother ((Value.same_ident_iff _ _).mp hsame)

/-! ## Copying -/

/-- Copying adds the copied template. -/
theorem copy_of_find [Halves] {lib : Library} {source : Value} {t : Template}
    (hfind : lib.find source = .ok (some t)) (name description createdBy : Value) (now : Stamp) :
    lib.copy source name description createdBy now =
      (lib.create (t.copied name description createdBy now)).map
        (·, t.copied name description createdBy now) := by
  rw [copy, hfind]
  change (lib.create (t.copied name description createdBy now) >>= _) = _
  cases lib.create (t.copied name description createdBy now) <;> rfl

theorem create_of_free {lib : Library} {i : Ident} {t : Template} (hid : t.id = .ident i)
    (hfree : .ident i ∉ lib.keys) : lib.create t = .ok ⟨lib.entries ++ [(.ident i, t)]⟩ := by
  have hnone := (get?_ident_eq_none_iff lib i).mpr hfree
  rw [create_eq_ok_iff, hid]
  exact ⟨hnone, (put_of_get?_eq_none hnone t).symm⟩

theorem create_of_taken {lib : Library} {i : Ident} {t : Template} (hid : t.id = .ident i)
    (htaken : .ident i ∈ lib.keys) : lib.create t = .error (.template (.taken (.ident i))) := by
  have hsome : (lib.get? (.ident i)).isSome = true := by
    rw [Option.isSome_iff_ne_none]
    exact fun hnone => (get?_ident_eq_none_iff lib i).mp hnone htaken
  rw [create, hid, if_pos hsome]

/-- What is found stays so when more is added. -/
theorem find_append [Halves] {lib : Library} {id : Value} {t : Template}
    (hfind : lib.find id = .ok (some t)) (more : List (Value × Template)) :
    find ⟨lib.entries ++ more⟩ id = .ok (some t) := by
  obtain ⟨i, hread, hget⟩ := find_eq_ok_iff.mp hfind
  obtain ⟨entry, hentry, ht⟩ := Option.map_eq_some_iff.mp hget
  refine find_eq_ok_iff.mpr ⟨i, hread, ?_⟩
  rw [get?, List.find?_append, hentry, Option.some_or, Option.map_some, ht]

/-- Deleting what has just been added, and is no default, gives back the library. -/
theorem delete_last [Halves] {lib : Library} {id : Value} {i : Ident} {t : Template}
    (hread : readId id = .ok i) (hfree : .ident i ∉ lib.keys) (hflag : t.isDefault = .bool false) :
    delete ⟨lib.entries ++ [(.ident i, t)]⟩ id = .ok (lib, true) := by
  have hothers := (get?_eq_none_iff lib _).mp ((get?_ident_eq_none_iff lib i).mpr hfree)
  have hself : (Value.ident i).same (.ident i) = true := (same_ident_iff i i).mpr rfl
  have hnone : lib.entries.find? (fun entry => entry.1.same (.ident i)) = none :=
    List.find?_eq_none.mpr fun entry hentry => by simp [hothers entry hentry]
  have hget : get? ⟨lib.entries ++ [(.ident i, t)]⟩ (.ident i) = some t := by
    simp [get?, List.find?_append, hnone, hself]
  have hkept : lib.entries.filter (fun entry => !entry.1.same (.ident i)) = lib.entries :=
    List.filter_eq_self.mpr fun entry hentry => by simp [hothers entry hentry]
  simp only [delete, hread, bind_eq_ok_iff]
  refine ⟨i, rfl, ?_⟩
  simp [hget, hflag, Value.truthy, List.filter_append, hkept, hself, pure, Except.pure]

end Library

namespace Shelf

/-! ## What a request does to the shelf -/

/-- The library after a request: it is left, one template is written, or one is deleted. -/
inductive Change [Halves] (lib : Library) (request : Request) : Library → Prop
  | nothing : Change lib request lib
  | written (key : Value) (t : Template) : Change lib request (lib.put key t)
  | deleted {id : Value} {i : Ident} (hrequest : request = .delete id)
      (hread : Library.readId id = .ok i) :
      Change lib request ⟨lib.entries.filter fun entry => !entry.1.same (.ident i)⟩

theorem Change.settle [Halves] {s : Shelf} {request : Request} {done : Outcome (Shelf × Value)}
    (h : ∀ after v, done = .ok (after, v) → Change s.library request after.library) :
    Change s.library request (s.settle done).1.library := by
  rcases done with f | ⟨after, v⟩
  · exact .nothing
  · exact h after v rfl

theorem Change.put [Halves] {s after : Shelf} {request : Request} {id : Value} {t : Template}
    (h : s.put id t = .ok after) : Change s.library request after.library := by
  simp only [Shelf.put, bind_eq_ok_iff, pure_eq_ok_iff] at h
  obtain ⟨i, -, rfl⟩ := h
  exact .written (.ident i) t

/-- Data that make no template leave the library. -/
theorem library_of_create_eq_error [Halves] {s after : Shelf} {data : Fields} {now : Stamp}
    {f : Fault} (h : s.create data now = (after, .error f)) : after.library = s.library := by
  unfold create at h
  split at h
  · exact congrArg (·.1.library) h.symm
  · dsimp only at h
    split at h
    · cases h
    · exact congrArg (·.1.library) h.symm

/-- Every request makes one of the changes. -/
theorem change_answer [Halves] (s : Shelf) (now : Stamp) (request : Request) :
    Change s.library request (s.answer now request).1.library := by
  cases request with
  | list | default | get | render | renderTwice => exact .nothing
  | create data =>
      rcases hmade : s.create data now with ⟨after, f | t⟩ <;> simp only [answer, hmade]
      · rw [library_of_create_eq_error hmade]
        exact .nothing
      · obtain ⟨-, -, -, -, -, hlibrary⟩ := create_eq_ok hmade
        rw [hlibrary]
        exact .written t.id t
  | update id updates =>
      rw [answer]
      refine .settle fun after v hdone => ?_
      simp only [bind_eq_ok_iff, pure_eq_ok_iff, Prod.mk.injEq] at hdone
      obtain ⟨⟨library, found⟩, hupdate, rfl, -⟩ := hdone
      cases found with
      | none =>
          obtain rfl := Library.update_eq_none hupdate
          exact .nothing
      | some t =>
          obtain ⟨i, old, -, -, -, rfl⟩ := Library.update_eq_ok hupdate
          exact .written _ _
  | delete id =>
      rw [answer]
      refine .settle fun after v hdone => ?_
      simp only [bind_eq_ok_iff, pure_eq_ok_iff, Prod.mk.injEq] at hdone
      obtain ⟨⟨library, gone⟩, hdelete, rfl, -⟩ := hdone
      cases gone with
      | false =>
          obtain rfl := Library.delete_eq_false hdelete
          exact .nothing
      | true =>
          obtain ⟨i, t, hread, -, -, rfl⟩ := Library.delete_eq_ok hdelete
          exact .deleted rfl hread
  | copy source name description createdBy =>
      rw [answer]
      refine .settle fun after v hdone => ?_
      simp only [bind_eq_ok_iff, pure_eq_ok_iff, Prod.mk.injEq] at hdone
      obtain ⟨⟨library, t⟩, hcopy, rfl, -⟩ := hdone
      obtain ⟨i, old, -, -, -, rfl⟩ := Library.copy_eq_ok hcopy
      exact .written _ _
  | addSection id data =>
      rw [answer]
      refine .settle fun after v hdone => ?_
      simp only [addSection, bind_eq_ok_iff, pure_eq_ok_iff, Prod.mk.injEq] at hdone
      obtain ⟨⟨written, t⟩, ⟨_, -, _, -, _, -, _, hput, rfl, rfl⟩, rfl, -⟩ := hdone
      exact .put hput
  | removeSection id sectionId =>
      rw [answer]
      refine .settle fun after v hdone => ?_
      simp only [removeSection, bind_eq_ok_iff, pure_eq_ok_iff, Prod.mk.injEq] at hdone
      obtain ⟨⟨written, t, removed⟩, ⟨_, -, _, -, _, hput, rfl, rfl, rfl⟩, rfl, -⟩ := hdone
      exact .put hput

/-! ## Runs -/

/-- The shelf after requests, each with the moment at which it arrives. -/
def after [Halves] (s : Shelf) (requests : List (Stamp × Request)) : Shelf :=
  requests.foldl (fun s asked => (s.answer asked.1 asked.2).1) s

/-- A deletion that names an identifier. -/
def Request.GivesUp [Halves] (request : Request) (i : Ident) : Prop :=
  ∃ id, request = .delete id ∧ Library.readId id = .ok i

/-- A request keeps every identifier that it does not give up. -/
theorem mem_keys_answer [Halves] {s : Shelf} {i : Ident} (h : .ident i ∈ s.library.keys)
    {now : Stamp} {request : Request} (hkeeps : ¬request.GivesUp i) :
    .ident i ∈ (s.answer now request).1.library.keys := by
  have hchange := change_answer s now request
  generalize (s.answer now request).1.library = after at hchange ⊢
  cases hchange with
  | nothing => exact h
  | written key t => exact Library.mem_keys_put h key t
  | @deleted id j hrequest hread =>
      refine Library.mem_keys_filter h fun hsame => hkeeps ⟨id, hrequest, ?_⟩
      rw [Value.ident.inj hsame, hread]

/-- So does a run. -/
theorem mem_keys_after [Halves] {i : Ident} (requests : List (Stamp × Request)) {s : Shelf}
    (h : .ident i ∈ s.library.keys) (hkeep : ∀ asked ∈ requests, ¬asked.2.GivesUp i) :
    .ident i ∈ (s.after requests).library.keys := by
  -- The shelf changes with every request, so it is generalised.
  induction requests generalizing s with
  | nil => exact h
  | cons asked rest ih =>
      exact ih (mem_keys_answer h (hkeep asked List.mem_cons_self))
        fun later hlater => hkeep later (List.mem_cons_of_mem _ hlater)

/-! ## Copies -/

section Copies

variable {s : Shelf} {source : Value} {t : Template}

theorem answer_copy_of_free [Halves] (hfind : s.library.find source = .ok (some t))
    (hfree : .ident .nil ∉ s.library.keys) (name description createdBy : Value) (now : Stamp) :
    s.answer now (.copy source name description createdBy) =
      ({ s with library := ⟨s.library.entries ++
          [(.ident .nil, t.copied name description createdBy now)]⟩ },
        .ok (t.copied name description createdBy now).toValue) := by
  rw [answer, Library.copy_of_find hfind, Library.create_of_free rfl hfree]
  rfl

theorem answer_copy_of_taken [Halves] (hfind : s.library.find source = .ok (some t))
    (htaken : .ident .nil ∈ s.library.keys) (name description createdBy : Value) (now : Stamp) :
    s.answer now (.copy source name description createdBy) =
      (s, .error (.template (.taken (.ident .nil)))) := by
  rw [answer, Library.copy_of_find hfind, Library.create_of_taken rfl htaken]
  rfl

/-- A copy that is made leaves its source and takes the place. -/
theorem after_copy_of_free [Halves] (hfind : s.library.find source = .ok (some t))
    (hfree : .ident .nil ∉ s.library.keys) (name description createdBy : Value) (now : Stamp) :
    (s.answer now (.copy source name description createdBy)).1.library.find source =
        .ok (some t) ∧
      .ident .nil ∈ (s.answer now (.copy source name description createdBy)).1.library.keys := by
  rw [answer_copy_of_free hfind hfree]
  exact ⟨Library.find_append hfind _, by simp [Library.keys]⟩

/-- Deleting a copy that has just been made gives back the shelf. -/
theorem answer_delete_copied [Halves] (hfree : .ident .nil ∉ s.library.keys)
    (name description createdBy : Value) (now moment : Stamp) :
    answer { s with library := ⟨s.library.entries ++
        [(.ident .nil, t.copied name description createdBy now)]⟩ } moment (.delete (.ident .nil)) =
      (s, .ok (.bool true)) := by
  rw [answer, Library.delete_last Library.readId_nil hfree rfl]
  rfl

end Copies

end Shelf

/-- Of a template on the shelf, after any requests, a copy is made exactly if no key is the
identifier without any bit.  The copy then goes last, under that key, and its source stays.  From
then on every further copy is refused as long as no deletion names that key, and its deletion gives
back the shelf.  A refused copy changes nothing. -/
theorem copied_iff_place_free [Halves] (now : Stamp) (requests : List (Stamp × Shelf.Request))
    {source : Value} {t : Template}
    (hfind : ((Shelf.start now).after requests).library.find source = .ok (some t))
    (name description createdBy : Value) (moment : Stamp) :
    let s := (Shelf.start now).after requests
    let copy := t.copied name description createdBy moment
    let answered := s.answer moment (.copy source name description createdBy)
    ((∃ v, answered.2 = .ok v) ↔ copy.id ∉ s.library.keys) ∧
      (copy.id ∉ s.library.keys →
        answered.2 = .ok copy.toValue ∧
        answered.1.library.entries = s.library.entries ++ [(copy.id, copy)] ∧
        answered.1.library.find source = .ok (some t) ∧
        (∀ later : List (Stamp × Shelf.Request), (∀ asked ∈ later, ¬asked.2.GivesUp .nil) →
          ∀ next t', (answered.1.after later).library.find next = .ok (some t') →
            ∀ name description createdBy moment,
              (answered.1.after later).answer moment (.copy next name description createdBy) =
                (answered.1.after later, .error (.template (.taken copy.id)))) ∧
        ∀ moment, answered.1.answer moment (.delete copy.id) = (s, .ok (.bool true))) ∧
      (copy.id ∈ s.library.keys → answered = (s, .error (.template (.taken copy.id)))) := by
  intro s copy answered
  have hmade : copy.id ∉ s.library.keys → answered = _ :=
    fun hfree => Shelf.answer_copy_of_free hfind hfree name description createdBy moment
  have hrefused : copy.id ∈ s.library.keys → answered = _ :=
    fun htaken => Shelf.answer_copy_of_taken hfind htaken name description createdBy moment
  refine ⟨⟨?_, fun hfree => ⟨_, congrArg Prod.snd (hmade hfree)⟩⟩, ?_, hrefused⟩
  · rintro ⟨v, hok⟩ htaken
    rw [hrefused htaken] at hok
    cases hok
  · intro hfree
    have hplace := Shelf.after_copy_of_free hfind hfree name description createdBy moment
    rw [Shelf.answer_copy_of_free hfind hfree] at hplace
    -- Rewritten first: comparing the states by unfolding `answer` does not end.
    rw [hmade hfree]
    refine ⟨rfl, rfl, hplace.1, ?_,
      Shelf.answer_delete_copied hfree name description createdBy moment⟩
    intro later hkeep next t' hnext
    exact Shelf.answer_copy_of_taken hnext (Shelf.mem_keys_after later hplace.2 hkeep)

/-! ### Copies of a default template -/

/-- A request for a copy of the default requirements specification. -/
def copyOfStandard (name : String) : Shelf.Request :=
  .copy (.ident (Ident.ofSupply 1)) (.text name) (.text "") .null

theorem find_start [Halves] (now : Stamp) :
    (Shelf.start now).library.find (.ident (Ident.ofSupply 1)) =
      .ok (some (Library.standardRequirements now)) := by
  rw [Shelf.start]
  exact Library.find_standardRequirements now

theorem nil_notMem_keys_start (now : Stamp) : .ident .nil ∉ (Shelf.start now).library.keys := by
  have hfirst : Ident.nil ≠ Ident.ofSupply 1 := by decide
  have hsecond : Ident.nil ≠ Ident.ofSupply 2 := by decide
  simp [Shelf.start, Library.keys, Library.start, Library.defaultTemplate, hfirst, hsecond]

section

open scoped Halves.Plain

/-- A copy is made, deleted and made again. -/
theorem copied_again_after_deletion :
    let now : Stamp := ⟨0, none⟩
    let requests := [(now, copyOfStandard "First"), (now, .delete (.ident .nil))]
    ((Shelf.start now).after requests).library.find (.ident (Ident.ofSupply 1)) =
        .ok (some (Library.standardRequirements now)) ∧
      ∃ v, (((Shelf.start now).after requests).answer now (copyOfStandard "Second")).2 = .ok v := by
  intro now requests
  have hafter : (Shelf.start now).after requests = Shelf.start now := by
    simp only [requests, Shelf.after, List.foldl_cons, List.foldl_nil, copyOfStandard]
    rw [Shelf.answer_copy_of_free (find_start now) (nil_notMem_keys_start now),
      Shelf.answer_delete_copied (nil_notMem_keys_start now)]
  have hfind := find_start now
  have hfree := nil_notMem_keys_start now
  rw [← hafter] at hfind hfree
  exact ⟨hfind, (copied_iff_place_free now requests hfind _ _ _ now).1.mpr hfree⟩

/-- Of two copies of one template the second is refused. -/
theorem second_copy_refused :
    let now : Stamp := ⟨0, none⟩
    let once := ((Shelf.start now).answer now (copyOfStandard "First")).1
    once.library.find (.ident (Ident.ofSupply 1)) =
        .ok (some (Library.standardRequirements now)) ∧
      once.answer now (copyOfStandard "Second") =
        (once, .error (.template (.taken (.ident .nil)))) := by
  intro now
  simp only [copyOfStandard]
  obtain ⟨hfind, htaken⟩ := Shelf.after_copy_of_free (find_start now) (nil_notMem_keys_start now)
    (.text "First") (.text "") .null now
  exact ⟨hfind, Shelf.answer_copy_of_taken hfind htaken (.text "Second") (.text "") .null now⟩

end

end Scriptorium.Template
