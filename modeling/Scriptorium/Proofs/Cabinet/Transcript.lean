import Scriptorium.Cabinet
import Scriptorium.Proofs.Fields
import Scriptorium.Proofs.History.Transcript
set_option autoImplicit false

/-!
# What a run of errands leaves in the cabinet

A run is read from its transcript: which documents were made, which were written to and when, and
which were removed.  What has become of a document is a function of the transcript, `documentAfter`,
and the main statement is `Kept.run`: after every run the cabinet holds just that, in the order in
which the documents were made.
-/

namespace Scriptorium.Cabinet

open History (Fresh)

/-! ## Entries

What is known of some identifiers, as entries in the order of the identifiers. -/

section Entries

variable {α : Type} {ids : List String} {f g : String → Option α} {id : String} {a : α}

/-- The entries of the identifiers of which something is known. -/
def entries (ids : List String) (f : String → Option α) : List (String × α) :=
  ids.filterMap fun id => (f id).map (id, ·)

theorem entries_cons_of_some {key : String} (h : f key = some a) :
    entries (key :: ids) f = (key, a) :: entries ids f := by
  simp [entries, h]

theorem entries_cons_of_none {key : String} (h : f key = none) :
    entries (key :: ids) f = entries ids f := by
  simp [entries, h]

theorem mem_entries_iff {key : String} : (key, a) ∈ entries ids f ↔ key ∈ ids ∧ f key = some a := by
  simp only [entries, List.mem_filterMap, Option.map_eq_some_iff, Prod.mk.injEq]
  constructor
  · rintro ⟨other, hother, known, hknown, rfl, rfl⟩
    exact ⟨hother, hknown⟩
  · rintro ⟨hkey, hknown⟩
    exact ⟨key, hkey, a, hknown, rfl, rfl⟩

theorem names_entries_sublist (ids : List String) (f : String → Option α) :
    (Fields.names (entries ids f)).Sublist ids := by
  induction ids with
  | nil => exact .slnil
  | cons key rest ih =>
      cases h : f key with
      | none =>
          rw [entries_cons_of_none h]
          exact ih.cons key
      | some a =>
          rw [entries_cons_of_some h]
          exact ih.cons_cons key

theorem get?_entries (id : String) (hid : id ∈ ids) : Fields.get? (entries ids f) id = f id := by
  induction ids with
  | nil => exact absurd hid List.not_mem_nil
  | cons key rest ih =>
      by_cases hkey : key = id
      · subst hkey
        cases h : f key with
        | some a =>
            rw [entries_cons_of_some h, Fields.get?_cons, if_pos rfl]
        | none =>
            refine (Fields.get?_eq_none_iff _ _).mpr ?_
            intro hmem
            obtain ⟨⟨other, a⟩, hentry, rfl⟩ := List.mem_map.mp hmem
            rw [(mem_entries_iff.mp hentry).2] at h
            cases h
      · have hrest := ih ((List.mem_cons.mp hid).resolve_left (Ne.symm hkey))
        cases h : f key with
        | none => rwa [entries_cons_of_none h]
        | some a => rwa [entries_cons_of_some h, Fields.get?_cons, if_neg hkey]

theorem get?_entries_of_not_mem (hid : id ∉ ids) : Fields.get? (entries ids f) id = none := by
  refine (Fields.get?_eq_none_iff _ _).mpr ?_
  intro hmem
  exact hid ((names_entries_sublist ids f).subset hmem)

theorem entries_congr (h : ∀ key ∈ ids, g key = f key) : entries ids g = entries ids f := by
  induction ids with
  | nil => rfl
  | cons key rest ih =>
      rw [List.forall_mem_cons] at h
      cases hf : f key with
      | none => rw [entries_cons_of_none hf, entries_cons_of_none (h.1.trans hf), ih h.2]
      | some a => rw [entries_cons_of_some hf, entries_cons_of_some (h.1.trans hf), ih h.2]

/-- What is learned of a new identifier goes last. -/
theorem put_entries_of_not_mem (hid : id ∉ ids) (hothers : ∀ key ∈ ids, g key = f key)
    (hnew : g id = some a) : Fields.put (entries ids f) id a = entries (ids ++ [id]) g := by
  have hnames : id ∉ Fields.names (entries ids f) :=
    fun hmem => hid ((names_entries_sublist ids f).subset hmem)
  rw [Fields.put_of_not_mem hnames, ← entries_congr hothers]
  simp [entries, hnew]

/-- What is learned of an identifier that has an entry takes its place. -/
theorem put_entries_of_mem (hnodup : ids.Nodup) (hid : id ∈ ids) (hknown : (f id).isSome)
    (hothers : ∀ key, key ≠ id → g key = f key) (hnew : g id = some a) :
    Fields.put (entries ids f) id a = entries ids g := by
  induction ids with
  | nil => exact absurd hid List.not_mem_nil
  | cons key rest ih =>
      rw [List.nodup_cons] at hnodup
      by_cases hkey : key = id
      · subst hkey
        obtain ⟨old, hold⟩ := Option.isSome_iff_exists.mp hknown
        have hrest : entries rest g = entries rest f := by
          refine entries_congr ?_
          intro other hother
          exact hothers other (fun heq => hnodup.1 (heq ▸ hother))
        rw [entries_cons_of_some hold, entries_cons_of_some hnew, hrest]
        simp [Fields.put]
      · have htail := ih hnodup.2 ((List.mem_cons.mp hid).resolve_left (Ne.symm hkey))
        cases h : f key with
        | none =>
            rw [entries_cons_of_none h, entries_cons_of_none ((hothers key hkey).trans h), htail]
        | some old =>
            rw [entries_cons_of_some h, entries_cons_of_some ((hothers key hkey).trans h), ← htail]
            simp [Fields.put, hkey]

/-- An identifier of which nothing is known any more loses its entry. -/
theorem erase_entries (hothers : ∀ key, key ≠ id → g key = f key) (hgone : g id = none) :
    Fields.erase (entries ids f) id = entries ids g := by
  induction ids with
  | nil => rfl
  | cons key rest ih =>
      by_cases hkey : key = id
      · subst hkey
        rw [entries_cons_of_none hgone, ← ih]
        cases h : f key with
        | none => rw [entries_cons_of_none h]
        | some old => simp [entries_cons_of_some h, Fields.erase]
      · cases h : f key with
        | none =>
            rw [entries_cons_of_none h, entries_cons_of_none ((hothers key hkey).trans h), ih]
        | some old =>
            rw [entries_cons_of_some h, entries_cons_of_some ((hothers key hkey).trans h), ← ih]
            simp [Fields.erase, hkey]

end Entries

/-! ## Runs -/

/-- A wish and when it is made. -/
structure Errand where
  now : Stamp
  wish : Wish

/-- An errand with what was answered. -/
structure Exchange extends Errand where
  answer : Outcome Value

/-- Runs an errand; gives the registry after it and the exchange. -/
def Registry.exchange [Halves] (supply : Nat → String) (registry : Registry) (errand : Errand) :
    Registry × Exchange :=
  let after := registry.answer supply errand.now errand.wish
  (after.1, ⟨errand, after.2⟩)

/-- Runs errands one after the other; gives the registry after them and the transcript. -/
def run [Halves] (supply : Nat → String) (errands : List Errand) (registry : Registry) :
    Registry × List Exchange :=
  Transcript.run (Registry.exchange supply) errands registry

/-! ## Reading a transcript -/

/-- What a wish gives to be written. -/
def Wish.draft? [Halves] : Wish → Option Draft
  | .create draft => some draft
  | .update _ draft => some draft
  | .generate order reply => (order.write reply).2.toOption
  | .importFile filename bytes projectId docType =>
    (markdownDraft filename bytes projectId docType).toOption
  | .get _ | .ofProject _ _ | .delete _ => none

/-- Whether a wish is for a new document. -/
def Wish.isNew : Wish → Bool
  | .create _ | .generate _ _ | .importFile _ _ _ _ => true
  | .get _ | .update _ _ | .ofProject _ _ | .delete _ => false

/-- The identifier in the record of a document. -/
def idIn (v : Value) : Option String := (v.field? "id").bind Value.text?

namespace Exchange

/-- The document that an exchange made. -/
def made? (x : Exchange) : Option String :=
  match x.wish, x.answer with
  | .create _, .ok v => idIn v
  | .importFile _ _ _ _, .ok v => idIn v
  | .generate _ _, .ok v => (v.field? "document").bind idIn
  | _, _ => none

/-- The document that an exchange wrote to: the one that it made or changed. -/
def written? (x : Exchange) : Option String :=
  match x.wish, x.answer with
  | .update id _, .ok _ => some id
  | _, _ => x.made?

/-- The document that an exchange removed. -/
def removed? (x : Exchange) : Option String :=
  match x.wish, x.answer with
  | .delete id, .ok _ => some id
  | _, _ => none

end Exchange

/-- The documents that were made, in order. -/
def made (t : List Exchange) : List String := t.filterMap (·.made?)

/-- The documents that were removed. -/
def removed (t : List Exchange) : List String := t.filterMap (·.removed?)

/-- The exchange that made a document. -/
def making? (t : List Exchange) (id : String) : Option Exchange := t.find? (·.made? == some id)

/-- The exchanges that wrote to a document. -/
def writings (t : List Exchange) (id : String) : List Exchange := t.filter (·.written? == some id)

/-- What has become of a document: it is gone once it is removed, and else it is as the last writing
left it. -/
def documentAfter [Halves] (t : List Exchange) (id : String) : Option Document :=
  if id ∈ removed t then none
  else do
    let first ← making? t id
    let last ← (writings t id).getLast?
    let draft ← last.wish.draft?
    return { draft with id := id, createdAt := first.now, updatedAt := last.now }

/-- The documents that are there, under their identifiers and in the order of their making. -/
def entriesAfter [Halves] (t : List Exchange) : Cabinet := entries (made t) (documentAfter t)

/-! ## What one exchange adds -/

section Snoc

variable {t : List Exchange} {x : Exchange} {id : String}

theorem made_snoc (t : List Exchange) (x : Exchange) :
    made (t ++ [x]) = made t ++ x.made?.toList := by
  cases h : x.made? <;> simp [made, h]

theorem removed_snoc (t : List Exchange) (x : Exchange) :
    removed (t ++ [x]) = removed t ++ x.removed?.toList := by
  cases h : x.removed? <;> simp [removed, h]

theorem making?_eq_none (h : id ∉ made t) : making? t id = none := by
  refine List.find?_eq_none.mpr ?_
  intro x hx hmade
  exact h (List.mem_filterMap.mpr ⟨x, hx, by simpa using hmade⟩)

/-- An exchange that makes a document writes to it. -/
theorem Exchange.written?_of_made? (h : x.made? = some id) : x.written? = some id := by
  unfold written?
  split
  · rename_i hwish _
    simp [made?, hwish] at h
  · exact h

/-- Nothing becomes of a document by an exchange that does not write to it and does not remove
it. -/
theorem documentAfter_snoc_of_ne [Halves] (hwritten : x.written? ≠ some id)
    (hremoved : x.removed? ≠ some id) :
    documentAfter (t ++ [x]) id = documentAfter t id := by
  have hmade : x.made? ≠ some id := fun h => hwritten (Exchange.written?_of_made? h)
  have hmaking : making? (t ++ [x]) id = making? t id := by
    simp [making?, List.find?_append, hmade]
  have hwritings : writings (t ++ [x]) id = writings t id := by
    simp [writings, List.filter_append, hwritten]
  have hgone : id ∈ removed (t ++ [x]) ↔ id ∈ removed t := by
    rw [removed_snoc, List.mem_append, Option.mem_toList]
    exact or_iff_left hremoved
  unfold documentAfter
  rw [hmaking, hwritings]
  simp only [hgone]

theorem made?_eq_none_of_written? (h : x.written? = none) : x.made? = none := by
  cases hmade : x.made? with
  | none => rfl
  | some id =>
      rw [Exchange.written?_of_made? hmade] at h
      cases h

/-- A document that an exchange makes is as the exchange wrote it. -/
theorem documentAfter_snoc_of_made [Halves] {draft : Draft} (hmade : x.made? = some id)
    (hnew : id ∉ made t) (hthere : id ∉ removed t) (hremoved : x.removed? = none)
    (hdraft : x.wish.draft? = some draft) :
    documentAfter (t ++ [x]) id =
      some { draft with id := id, createdAt := x.now, updatedAt := x.now } := by
  have hmaking : making? (t ++ [x]) id = some x := by
    have hnone := making?_eq_none hnew
    unfold making? at hnone ⊢
    rw [List.find?_append, hnone]
    simp [hmade]
  have hlast : (writings (t ++ [x]) id).getLast? = some x := by
    simp [writings, List.filter_append, Exchange.written?_of_made? hmade]
  unfold documentAfter
  rw [removed_snoc, hremoved, hmaking, hlast]
  simp [hthere, hdraft]

/-- A document that an exchange changes keeps when it was made. -/
theorem documentAfter_snoc_of_changed [Halves] {draft : Draft} {old : Document}
    (hold : documentAfter t id = some old) (hwritten : x.written? = some id)
    (hmade : x.made? = none) (hremoved : x.removed? = none) (hdraft : x.wish.draft? = some draft) :
    documentAfter (t ++ [x]) id =
      some { draft with id := id, createdAt := old.createdAt, updatedAt := x.now } := by
  have hmaking : making? (t ++ [x]) id = making? t id := by
    simp [making?, List.find?_append, hmade]
  have hlast : (writings (t ++ [x]) id).getLast? = some x := by
    simp [writings, List.filter_append, hwritten]
  unfold documentAfter at hold ⊢
  rw [removed_snoc, hremoved, hmaking, hlast]
  split at hold
  · cases hold
  · rename_i hthere
    obtain ⟨first, hfirst, hrest⟩ := Option.bind_eq_some_iff.mp hold
    obtain ⟨last, -, hrest⟩ := Option.bind_eq_some_iff.mp hrest
    obtain ⟨before, -, hdocument⟩ := Option.bind_eq_some_iff.mp hrest
    obtain rfl := Option.some.inj hdocument
    simp [hthere, hdraft, hfirst]

theorem documentAfter_snoc_of_removed [Halves] (hremoved : x.removed? = some id) :
    documentAfter (t ++ [x]) id = none := by
  refine if_pos ?_
  rw [removed_snoc, hremoved]
  simp

end Snoc

/-! ## What an errand can do -/

/-- What an exchange does to a registry: nothing, or it makes a document under the next identifier,
changes a document that is there, or removes one. -/
inductive Exchange.Does [Halves] (supply : Nat → String) (registry : Registry) (x : Exchange) :
    Registry → Prop where
  | nothing (hwritten : x.written? = none) (hremoved : x.removed? = none) :
      Does supply registry x registry
  | makes {draft : Draft} (hdraft : x.wish.draft? = some draft)
      (hmade : x.made? = some (supply (registry.taken + 1))) (hremoved : x.removed? = none) :
      Does supply registry x
        ⟨(registry.cabinet.create (supply (registry.taken + 1)) draft x.now).1, registry.taken + 1⟩
  | changes {id : String} {draft : Draft} {old : Document}
      (hold : Fields.get? registry.cabinet id = some old) (hdraft : x.wish.draft? = some draft)
      (hwritten : x.written? = some id) (hmade : x.made? = none) (hremoved : x.removed? = none) :
      Does supply registry x
        ⟨Fields.put registry.cabinet id
          { draft with id := id, createdAt := old.createdAt, updatedAt := x.now }, registry.taken⟩
  | removes {id : String} (hold : (Fields.get? registry.cabinet id).isSome)
      (hremoved : x.removed? = some id) (hwritten : x.written? = none) :
      Does supply registry x ⟨Fields.erase registry.cabinet id, registry.taken⟩

theorem idIn_toValue (d : Document) : idIn d.toValue = some d.id := by
  simp [idIn, Document.toValue, Value.field?, Fields.get?, Value.text?]

theorem idIn_announcement (d : Document) :
    ((announcement d).field? "document").bind idIn = some d.id := by
  have hfield : (announcement d).field? "document" = some d.toValue := by
    simp [announcement, Value.field?, Fields.get?]
  rw [hfield]
  exact idIn_toValue d

theorem get_eq_ok_iff {cabinet : Cabinet} {id : String} {d : Document} :
    cabinet.get id = .ok d ↔ Fields.get? cabinet id = some d := by
  unfold get
  cases Fields.get? cabinet id <;> simp

theorem get_eq_error {cabinet : Cabinet} {id : String} (h : Fields.get? cabinet id = none) :
    cabinet.get id = .error notFound := by
  rw [get, h]

/-- The answer to an errand is one of these. -/
theorem does_answer [Halves] (supply : Nat → String) (registry : Registry) (errand : Errand) :
    Exchange.Does supply registry ⟨errand, (registry.answer supply errand.now errand.wish).2⟩
      (registry.answer supply errand.now errand.wish).1 := by
  obtain ⟨now, wish⟩ := errand
  cases wish with
  | create draft => exact .makes rfl (idIn_toValue _) rfl
  | get id => exact .nothing rfl rfl
  | ofProject projectId docType => exact .nothing rfl rfl
  | update id draft =>
      cases hget : Fields.get? registry.cabinet id with
      | none =>
          have hanswer : registry.answer supply now (.update id draft) =
              (registry, .error notFound) := by
            simp only [Registry.answer, update, get_eq_error hget, bind, Except.bind,
              Registry.settle]
          simp only [hanswer]
          exact .nothing rfl rfl
      | some old =>
          have hanswer : registry.answer supply now (.update id draft) =
              (⟨Fields.put registry.cabinet id
                { draft with id := id, createdAt := old.createdAt, updatedAt := now },
                registry.taken⟩,
              .ok (Document.toValue
                { draft with id := id, createdAt := old.createdAt, updatedAt := now })) := by
            simp only [Registry.answer, update, get_eq_ok_iff.mpr hget, bind, Except.bind, pure,
              Except.pure, Registry.settle]
          simp only [hanswer]
          exact .changes hget rfl rfl rfl rfl
  | delete id =>
      cases hget : Fields.get? registry.cabinet id with
      | none =>
          have hanswer : registry.answer supply now (.delete id) =
              (registry, .error notFound) := by
            simp only [Registry.answer, delete, discard, Functor.mapConst, Except.map,
              Function.comp, get_eq_error hget, bind, Except.bind, Registry.settle]
          simp only [hanswer]
          exact .nothing rfl rfl
      | some old =>
          have hanswer : registry.answer supply now (.delete id) =
              (⟨Fields.erase registry.cabinet id, registry.taken⟩, .ok .null) := by
            simp only [Registry.answer, delete, discard, Functor.mapConst, Except.map,
              Function.comp, get_eq_ok_iff.mpr hget, bind, Except.bind, pure, Except.pure,
              Registry.settle]
          simp only [hanswer]
          exact .removes (by rw [hget]; rfl) rfl rfl
  | generate order reply =>
      cases hwrite : (order.write reply).2 with
      | error fault =>
          simp only [Registry.answer, generate, hwrite, Registry.file]
          exact .nothing rfl rfl
      | ok draft =>
          simp only [Registry.answer, generate, hwrite, Registry.file]
          exact .makes (by simp [Wish.draft?, hwrite, Except.toOption]) (idIn_announcement _) rfl
  | importFile filename bytes projectId docType =>
      cases hdraft : markdownDraft filename bytes projectId docType with
      | error fault =>
          simp only [Registry.answer, importFile, hdraft, bind, Except.bind, Registry.file]
          exact .nothing rfl rfl
      | ok draft =>
          simp only [Registry.answer, importFile, hdraft, bind, Except.bind, pure, Except.pure,
            Registry.file]
          exact .makes (by simp [Wish.draft?, hdraft, Except.toOption]) (idIn_toValue _) rfl

/-- A wish for a new document is fulfilled if there is something to write. -/
theorem made?_answer_iff [Halves] (supply : Nat → String) (registry : Registry) {errand : Errand}
    (hnew : errand.wish.isNew = true) :
    (Exchange.made? ⟨errand, (registry.answer supply errand.now errand.wish).2⟩).isSome ↔
      errand.wish.draft?.isSome := by
  obtain ⟨now, wish⟩ := errand
  cases wish with
  | create draft => exact iff_of_true rfl rfl
  | generate order reply =>
      cases hwrite : (order.write reply).2 with
      | error fault =>
          simp [Registry.answer, generate, hwrite, Registry.file, Exchange.made?, Wish.draft?,
            Except.toOption]
      | ok draft =>
          simp [Registry.answer, generate, hwrite, Registry.file, Exchange.made?, Wish.draft?,
            Except.toOption, idIn_announcement]
  | importFile filename bytes projectId docType =>
      cases hdraft : markdownDraft filename bytes projectId docType with
      | error fault =>
          simp [Registry.answer, importFile, hdraft, bind, Except.bind, Registry.file,
            Exchange.made?, Wish.draft?, Except.toOption]
      | ok draft =>
          simp [Registry.answer, importFile, hdraft, bind, Except.bind, pure, Except.pure,
            Registry.file, Exchange.made?, Wish.draft?, Except.toOption, idIn_toValue]
  | get | update | ofProject | delete => cases hnew

/-! ## The cabinet agrees with the transcript -/

/-- The cabinet holds what the transcript says.  Documents took the identifiers of the supply one
after the other from some start, whatever was removed had been made, and whatever was written to got
something to write. -/
structure Kept [Halves] (supply : Nat → String) (start : Nat) (registry : Registry)
    (t : List Exchange) :
    Prop where
  cabinet : registry.cabinet = entriesAfter t
  made : ∃ n, registry.taken = start + n ∧ Cabinet.made t = (List.range' (start + 1) n).map supply
  removed : ∀ id ∈ Cabinet.removed t, id ∈ Cabinet.made t
  drafted : ∀ x ∈ t, x.written?.isSome → x.wish.draft?.isSome

namespace Kept

variable {supply : Nat → String} {start : Nat} {registry : Registry} {t : List Exchange}
  {x : Exchange}

theorem empty [Halves] (supply : Nat → String) (start : Nat) :
    Kept supply start ⟨[], start⟩ [] where
  cabinet := rfl
  made := ⟨0, rfl, rfl⟩
  removed _ hid := absurd hid List.not_mem_nil
  drafted _ hx := absurd hx List.not_mem_nil

/-- Identifiers that are taken later on are pairwise different, too. -/
theorem nodup_later {n : Nat} (h : Fresh supply (start + n)) :
    ((List.range' (start + 1) n).map supply).Nodup := by
  have hlater : (List.range' (start + 1) n).Sublist (List.range' 1 (start + n)) := by
    rw [← List.range'_append_1, Nat.add_comm 1 start]
    exact List.sublist_append_right _ _
  exact h.sublist (hlater.map supply)

theorem nodup_made [Halves] (h : Kept supply start registry t)
    (hfresh : Fresh supply registry.taken) :
    (Cabinet.made t).Nodup := by
  obtain ⟨n, htaken, hmade⟩ := h.made
  rw [hmade]
  exact nodup_later (htaken ▸ hfresh)

/-- The next identifier of the supply has not been taken. -/
theorem next_not_mem [Halves] (h : Kept supply start registry t)
    (hfresh : Fresh supply (registry.taken + 1)) :
    supply (registry.taken + 1) ∉ Cabinet.made t := by
  obtain ⟨n, htaken, hmade⟩ := h.made
  rw [htaken, Nat.add_assoc] at hfresh
  have hnodup := nodup_later hfresh
  rw [List.range'_1_concat, List.map_append, List.nodup_append, ← hmade] at hnodup
  intro hmem
  rw [htaken, Nat.add_right_comm] at hmem
  exact hnodup.2.2 _ hmem (supply (start + 1 + n)) (by simp) rfl

/-- A document is found as the transcript says. -/
theorem get?_eq [Halves] (h : Kept supply start registry t) (id : String) :
    Fields.get? registry.cabinet id = documentAfter t id := by
  rw [h.cabinet, entriesAfter]
  by_cases hid : id ∈ Cabinet.made t
  · exact get?_entries id hid
  · have hnone : documentAfter t id = none := by
      unfold documentAfter
      rw [making?_eq_none hid]
      split <;> rfl
    rw [get?_entries_of_not_mem hid, hnone]

theorem mem_made_of_get? [Halves] (h : Kept supply start registry t) {id : String}
    (hthere : (Fields.get? registry.cabinet id).isSome) : id ∈ Cabinet.made t := by
  refine Classical.byContradiction fun hid => ?_
  rw [h.cabinet, entriesAfter, get?_entries_of_not_mem hid] at hthere
  cases hthere

theorem drafted_snoc [Halves] (h : Kept supply start registry t)
    (hx : x.written?.isSome → x.wish.draft?.isSome) :
    ∀ y ∈ t ++ [x], y.written?.isSome → y.wish.draft?.isSome := by
  intro y hy
  rcases List.mem_append.mp hy with hold | hnew
  · exact h.drafted y hold
  · rw [List.mem_singleton.mp hnew]
    exact hx

/-- What an exchange does that makes no document, for the agreement: what is there afterwards is
what was made before and is still known. -/
theorem extend [Halves] (h : Kept supply start registry t) {cabinet : Cabinet}
    (hnone : x.made? = none) (hremoved : ∀ id, x.removed? = some id → id ∈ Cabinet.made t)
    (hdrafted : x.written?.isSome → x.wish.draft?.isSome)
    (hcabinet : cabinet = entries (Cabinet.made t) (documentAfter (t ++ [x]))) :
    Kept supply start ⟨cabinet, registry.taken⟩ (t ++ [x]) := by
  have hmade : Cabinet.made (t ++ [x]) = Cabinet.made t := by simp [made_snoc, hnone]
  refine ⟨?_, ?_, ?_, h.drafted_snoc hdrafted⟩
  · rw [entriesAfter, hmade]
    exact hcabinet
  · rw [hmade]
    exact h.made
  · intro id hid
    rw [hmade]
    rw [removed_snoc, List.mem_append, Option.mem_toList] at hid
    exact hid.elim (h.removed id) (hremoved id)

/-- A document under the next identifier goes last. -/
theorem makes [Halves] (h : Kept supply start registry t)
    (hfresh : Fresh supply (registry.taken + 1))
    {draft : Draft} (hdraft : x.wish.draft? = some draft)
    (hmade : x.made? = some (supply (registry.taken + 1))) (hremoved : x.removed? = none) :
    Kept supply start
      ⟨(registry.cabinet.create (supply (registry.taken + 1)) draft x.now).1, registry.taken + 1⟩
      (t ++ [x]) := by
  -- A new identifier was never removed either, since only what was made is removed.
  have hnew := h.next_not_mem hfresh
  have hthere : supply (registry.taken + 1) ∉ Cabinet.removed t :=
    fun hid => hnew (h.removed _ hid)
  have hmade' : Cabinet.made (t ++ [x]) = Cabinet.made t ++ [supply (registry.taken + 1)] := by
    simp [made_snoc, hmade]
  have hwritten := Exchange.written?_of_made? hmade
  refine ⟨?_, ?_, ?_, h.drafted_snoc (by simp [hdraft])⟩
  · rw [entriesAfter, hmade', create, h.cabinet]
    refine put_entries_of_not_mem hnew ?_ ?_
    · intro key hkey
      have hne : supply (registry.taken + 1) ≠ key := fun heq => hnew (heq ▸ hkey)
      exact documentAfter_snoc_of_ne (by simp [hwritten, hne]) (by simp [hremoved])
    · exact documentAfter_snoc_of_made hmade hnew hthere hremoved hdraft
  · obtain ⟨n, htaken, hids⟩ := h.made
    refine ⟨n + 1, by simp only [htaken, Nat.add_assoc], ?_⟩
    rw [hmade', hids, List.range'_1_concat, List.map_append, htaken, Nat.add_right_comm]
    rfl
  · intro id hid
    rw [removed_snoc, hremoved] at hid
    rw [hmade']
    exact List.mem_append_left _ (h.removed id (by simpa using hid))

/-- Every exchange keeps the agreement. -/
theorem step [Halves] (h : Kept supply start registry t) {after : Registry}
    (hfresh : Fresh supply after.taken) (hdoes : x.Does supply registry after) :
    Kept supply start after (t ++ [x]) := by
  cases hdoes with
  | nothing hwritten hremoved =>
      refine h.extend (made?_eq_none_of_written? hwritten) (by simp [hremoved])
        (by simp [hwritten]) ?_
      rw [h.cabinet]
      refine (entries_congr fun id _ => ?_).symm
      exact documentAfter_snoc_of_ne (by simp [hwritten]) (by simp [hremoved])
  | makes hdraft hmade hremoved => exact h.makes hfresh hdraft hmade hremoved
  | @changes id draft old hold hdraft hwritten hnone hremoved =>
      refine h.extend hnone (by simp [hremoved]) (by simp [hdraft]) ?_
      -- The document keeps its place: it has an entry, and no identifier stands twice.
      have hbefore : documentAfter t id = some old := (h.get?_eq id).symm.trans hold
      have hid : id ∈ Cabinet.made t := h.mem_made_of_get? (by rw [hold]; rfl)
      rw [h.cabinet]
      refine put_entries_of_mem (h.nodup_made hfresh) hid (by rw [hbefore]; rfl) ?_ ?_
      · intro key hkey
        exact documentAfter_snoc_of_ne (by simp [hwritten, hkey.symm]) (by simp [hremoved])
      · exact documentAfter_snoc_of_changed hbefore hwritten hnone hremoved hdraft
  | @removes id hold hremoved hwritten =>
      have hid : id ∈ Cabinet.made t := h.mem_made_of_get? hold
      refine h.extend (made?_eq_none_of_written? hwritten) ?_ (by simp [hwritten]) ?_
      · intro other hother
        obtain rfl := Option.some.inj (hremoved.symm.trans hother)
        exact hid
      · rw [h.cabinet]
        refine erase_entries ?_ (documentAfter_snoc_of_removed hremoved)
        intro key hkey
        exact documentAfter_snoc_of_ne (by simp [hwritten]) (by simp [hremoved, hkey.symm])

end Kept

theorem Exchange.Does.taken_le [Halves] {supply : Nat → String} {registry after : Registry}
    {x : Exchange} (h : x.Does supply registry after) : registry.taken ≤ after.taken := by
  cases h with
  | makes => exact Nat.le_succ _
  | _ => exact Nat.le_refl _

/-- Every run keeps the agreement. -/
theorem Kept.run [Halves] {supply : Nat → String} {start : Nat} (errands : List Errand)
    {registry : Registry} {t : List Exchange} (h : Kept supply start registry t)
    (hfresh : Fresh supply (run supply errands registry).1.taken) :
    Kept supply start (run supply errands registry).1
      (t ++ (run supply errands registry).2) := by
  have hback : ∀ (registry : Registry) (errand : Errand),
      Fresh supply (registry.exchange supply errand).1.taken → Fresh supply registry.taken :=
    fun registry errand hafter => hafter.mono (does_answer supply registry errand).taken_le
  refine Transcript.keeps_run (fun registry => Fresh supply registry.taken) hback
    (Kept supply start) ?_ errands h hfresh
  intro registry t errand hkept hafter
  exact hkept.step hafter (does_answer supply registry errand)

end Scriptorium.Cabinet
