import Scriptorium.Proofs.Template.Copies
set_option autoImplicit false

/-!
# Operations on the library, step by step

An operation looks things up, checks them and writes.  A fault in the middle takes nothing back that
was written before it, so that a failed operation leaves the library only because every check comes
before the first write.  Here the operations are written down as such steps; they do what the shelf
does, and the proofs follow their steps: whatever only reads may come first, a write may fail only
without an effect, and nothing that can fail comes behind it.
-/

namespace Scriptorium.Template

open Outcome

/-- Something done to a library step by step.  A fault ends it and takes nothing back. -/
abbrev Act (α : Type) := ExceptT Fault (StateM Library) α

namespace Act

variable {α β : Type}

/-- What an act leaves of a library, and what comes of it. -/
def on (act : Act α) (lib : Library) : Library × Outcome α :=
  let (outcome, after) := StateT.run (ExceptT.run act) lib
  (after, outcome)

/-! ## Steps -/

/-- Goes on with the outcome of something that has nothing to do with the library. -/
def given (outcome : Outcome α) : Act α := ExceptT.mk (pure outcome)

/-- Only scalars can be keys. -/
def checkKey (key : Value) : Act Unit :=
  if key.isScalar then pure () else throw (.unhashable key.kind)

/-- The template under a key. -/
def lookUp (key : Value) : Act (Option Template) := do
  checkKey key
  return (← get).get? key

/-- Writes a template under a key. -/
def write (key : Value) (t : Template) : Act Unit := do
  checkKey key
  modify fun lib => lib.put key t

/-- Takes out what is under an identifier. -/
def erase (i : Ident) : Act Unit :=
  modify fun lib => ⟨lib.entries.filter fun entry => !entry.1.same (.ident i)⟩

/-! ## Operations -/

/-- Looks up a template by an identifier that has to be read first. -/
def find [Halves] (id : Value) : Act (Option Template) := do
  lookUp (.ident (← given (Library.readId id)))

/-- Adds a template. -/
def create (t : Template) : Act Template := do
  if (← lookUp t.id).isSome then throw (.template (.taken t.id))
  write t.id t
  return t

/-- Updates a template, if it is there. -/
def update [Halves] (id : Value) (updates : Fields) (now : Stamp) : Act (Option Template) := do
  match ← find id with
  | none => return none
  | some t =>
    let t := t.update updates now
    write t.id t
    return some t

/-- Deletes a template, if it is there. -/
def delete [Halves] (id : Value) : Act Bool := do
  let i ← given (Library.readId id)
  match ← lookUp (.ident i) with
  | none => return false
  | some t =>
    if t.isDefault.truthy then throw (.template .isDefault)
    erase i
    return true

/-- Adds a copy of a template. -/
def copy [Halves] (source name description createdBy : Value) (now : Stamp) : Act Template := do
  match ← find source with
  | none => throw (.template (.noSource source))
  | some t => create (t.copied name description createdBy now)

/-- Renders a template. -/
def render [Halves] (id context : Value) (marked : Bool) : Act String := do
  match ← find id with
  | none => throw (.template (.missing id))
  | some t => given (t.render context marked)

/-! ## What acts leave -/

theorem on_given (outcome : Outcome α) (lib : Library) : (given outcome).on lib = (lib, outcome) :=
  rfl

section Bind

variable {act : Act α} {next : α → Act β} {lib mid : Library}

theorem on_bind_ok {a : α} (h : act.on lib = (mid, .ok a)) :
    (act >>= next).on lib = (next a).on mid := by
  have hrun : StateT.run (ExceptT.run act) lib = (.ok a, mid) := Prod.ext (congrArg Prod.snd h)
    (congrArg Prod.fst h)
  simp only [on, ExceptT.run_bind, StateT.run_bind, hrun]
  rfl

theorem on_bind_error {f : Fault} (h : act.on lib = (mid, .error f)) :
    (act >>= next).on lib = (mid, .error f) := by
  have hrun : StateT.run (ExceptT.run act) lib = (.error f, mid) := Prod.ext (congrArg Prod.snd h)
    (congrArg Prod.fst h)
  simp only [on, ExceptT.run_bind, StateT.run_bind, hrun]
  rfl

end Bind

/-- An act leaves every library as it is. -/
def Reads (act : Act α) : Prop := ∀ lib, (act.on lib).1 = lib

/-- An act leaves every library as it is, unless something comes of it that is no miss. -/
def Careful (miss : α → Prop) (act : Act α) : Prop :=
  ∀ lib, (∀ a, (act.on lib).2 = .ok a → miss a) → (act.on lib).1 = lib

theorem reads_given (outcome : Outcome α) : Reads (given outcome) := fun _ => rfl

theorem reads_pure (a : α) : Reads (pure a : Act α) := fun _ => rfl

theorem reads_throw (f : Fault) : Reads (throw f : Act α) := fun _ => rfl

theorem reads_checkKey (key : Value) : Reads (checkKey key) := by
  unfold checkKey
  split
  · exact reads_pure ()
  · exact reads_throw _

theorem Reads.bind {act : Act α} {next : α → Act β} (h : Reads act) (hnext : ∀ a, Reads (next a)) :
    Reads (act >>= next) := by
  intro lib
  have hsame := h lib
  rcases hact : act.on lib with ⟨mid, f | a⟩ <;> rw [hact] at hsame <;> obtain rfl := hsame
  · rw [on_bind_error hact]
  · rw [on_bind_ok hact, hnext a]

theorem Reads.careful {act : Act α} (h : Reads act) (miss : α → Prop) : Careful miss act :=
  fun lib _ => h lib

/-- Reading first changes nothing. -/
theorem Careful.bind {act : Act α} {next : α → Act β} {miss : β → Prop} (h : Reads act)
    (hnext : ∀ a, Careful miss (next a)) : Careful miss (act >>= next) := by
  intro lib hmiss
  have hsame := h lib
  rcases hact : act.on lib with ⟨mid, f | a⟩ <;> rw [hact] at hsame <;> obtain rfl := hsame
  · rw [on_bind_error hact]
  · rw [on_bind_ok hact] at hmiss ⊢
    exact hnext a mid hmiss

/-- Telling what has come of an act changes nothing; what is told of a miss has to be one. -/
theorem Careful.tell {act : Act α} {miss : α → Prop} {told : β → Prop} (h : Careful miss act)
    {f : α → β} (hf : ∀ a, told (f a) → miss a) :
    Careful told (act >>= fun a => pure (f a)) := by
  intro lib hmiss
  have hcareful := h lib
  rcases hact : act.on lib with ⟨mid, fault | a⟩ <;> rw [hact] at hcareful
  · rw [on_bind_error hact]
    exact hcareful fun a ha => by cases ha
  · rw [on_bind_ok hact] at hmiss ⊢
    refine hcareful fun b hb => ?_
    obtain rfl := Except.ok.inj hb
    exact hf a (hmiss (f a) rfl)

/-! ## Operations are careful -/

theorem reads_lookUp (key : Value) : Reads (lookUp key) :=
  (reads_checkKey key).bind fun _ _ => rfl

theorem reads_find [Halves] (id : Value) : Reads (find id) :=
  (reads_given _).bind fun i => reads_lookUp (.ident i)

/-- A template is written under a key that can be one, or nothing is. -/
theorem careful_write (key : Value) (t : Template) : Careful (fun _ => False) (write key t) :=
  .bind (reads_checkKey key) fun _ _ hmiss => (hmiss () rfl).elim

theorem careful_erase (i : Ident) : Careful (fun _ => False) (erase i) :=
  fun _ hmiss => (hmiss () rfl).elim

theorem careful_create (t : Template) : Careful (fun _ => False) (create t) := by
  refine .bind (reads_lookUp t.id) fun found => ?_
  cases found with
  | some old => exact (reads_throw _).careful _
  | none => exact (careful_write t.id t).tell fun _ => False.elim

theorem careful_update [Halves] (id : Value) (updates : Fields) (now : Stamp) :
    Careful (· = none) (update id updates now) := by
  refine .bind (reads_find id) fun found => ?_
  cases found with
  | none => exact (reads_pure none).careful _
  | some t => exact (careful_write _ _).tell fun _ => Option.some_ne_none _

theorem careful_delete [Halves] (id : Value) : Careful (· = false) (delete id) := by
  refine .bind (reads_given _) fun i => .bind (reads_lookUp (.ident i)) fun found => ?_
  cases found with
  | none => exact (reads_pure false).careful _
  | some t =>
      by_cases hdefault : t.isDefault.truthy = true
      · simp only [hdefault, if_true]
        exact (reads_throw _).careful _
      · simp only [hdefault]
        exact (careful_erase i).tell fun _ h => Bool.noConfusion h

theorem careful_copy [Halves] (source name description createdBy : Value) (now : Stamp) :
    Careful (fun _ => False) (copy source name description createdBy now) := by
  refine .bind (reads_find source) fun found => ?_
  cases found with
  | none => exact (reads_throw _).careful _
  | some t => exact careful_create _

theorem reads_render [Halves] (id context : Value) (marked : Bool) :
    Reads (render id context marked) := by
  refine (reads_find id).bind fun found => ?_
  cases found with
  | none => exact reads_throw _
  | some t => exact reads_given _

/-! ## The library does what the acts do -/

/-- Keeps what was done, if nothing went wrong. -/
def settled (lib : Library) (done : Outcome (Library × α)) : Library × Outcome α :=
  match done with
  | .ok (after, a) => (after, .ok a)
  | .error f => (lib, .error f)

theorem on_lookUp {key : Value} (h : key.isScalar = true) (lib : Library) :
    (lookUp key).on lib = (lib, .ok (lib.get? key)) := by
  rw [lookUp, checkKey, if_pos h]
  rfl

theorem on_write {key : Value} (h : key.isScalar = true) (t : Template) (lib : Library) :
    (write key t).on lib = (lib.put key t, .ok ()) := by
  rw [write, checkKey, if_pos h]
  rfl

theorem on_write_error {key : Value} (h : key.isScalar = false) (t : Template) (lib : Library) :
    (write key t).on lib = (lib, .error (.unhashable key.kind)) := by
  rw [write, checkKey, h]
  rfl

theorem on_find [Halves] (id : Value) (lib : Library) : (find id).on lib = (lib, lib.find id) := by
  rw [find, Library.find]
  cases hread : Library.readId id with
  | error f => exact on_bind_error (on_given _ lib)
  | ok i =>
      rw [on_bind_ok (on_given _ lib), on_lookUp rfl]
      rfl

section Found

variable {id : Value} {lib : Library} {next : Option Template → Act α}

theorem on_find_bind_error [Halves] {f : Fault} (h : lib.find id = .error f) :
    (find id >>= next).on lib = (lib, .error f) :=
  on_bind_error (h ▸ on_find id lib)

theorem on_find_bind_ok [Halves] {found : Option Template} (h : lib.find id = .ok found) :
    (find id >>= next).on lib = (next found).on lib :=
  on_bind_ok (h ▸ on_find id lib)

end Found

theorem on_create {t : Template} (h : t.id.isScalar = true) (lib : Library) :
    (create t).on lib = settled lib ((lib.create t).map (·, t)) := by
  rw [create, Library.create, on_bind_ok (on_lookUp h lib)]
  cases lib.get? t.id with
  | some old => rfl
  | none => exact on_bind_ok (on_write h t lib)

theorem on_update [Halves] (id : Value) (updates : Fields) (now : Stamp) (lib : Library) :
    (update id updates now).on lib = settled lib (lib.update id updates now) := by
  rw [update, Library.update]
  cases hfind : lib.find id with
  | error f => exact on_find_bind_error hfind
  | ok found =>
      rw [on_find_bind_ok hfind]
      cases found with
      | none => rfl
      | some t =>
          cases hkey : (t.update updates now).id.isScalar with
          | true =>
              refine (on_bind_ok (on_write hkey _ lib)).trans ?_
              simp only [bind, Except.bind, hkey, if_true]
              rfl
          | false =>
              refine (on_bind_error (on_write_error hkey _ lib)).trans ?_
              simp only [bind, Except.bind, hkey]
              rfl

theorem on_delete [Halves] (id : Value) (lib : Library) :
    (delete id).on lib = settled lib (lib.delete id) := by
  rw [delete, Library.delete]
  cases hread : Library.readId id with
  | error f => exact on_bind_error (on_given _ lib)
  | ok i =>
      rw [on_bind_ok (on_given _ lib), on_bind_ok (on_lookUp rfl lib)]
      simp only [bind, Except.bind]
      cases lib.get? (.ident i) with
      | none => rfl
      | some t => cases hdefault : t.isDefault.truthy <;> simp only [hdefault] <;> rfl

theorem on_copy [Halves] (source name description createdBy : Value) (now : Stamp) (lib : Library) :
    (copy source name description createdBy now).on lib =
      settled lib (lib.copy source name description createdBy now) := by
  cases hfind : lib.find source with
  | error f =>
      rw [copy, Library.copy, hfind]
      exact on_find_bind_error hfind
  | ok found =>
      rw [copy, on_find_bind_ok hfind]
      cases found with
      | none =>
          rw [Library.copy, hfind]
          rfl
      | some t => rw [Library.copy_of_find hfind, on_create rfl]

theorem on_render [Halves] (id context : Value) (marked : Bool) (lib : Library) :
    (render id context marked).on lib = (lib, lib.render id context marked) := by
  rw [render, Library.render]
  cases hfind : lib.find id with
  | error f => exact on_find_bind_error hfind
  | ok found =>
      rw [on_find_bind_ok hfind]
      cases found <;> rfl

theorem on_tell (act : Act α) (f : α → β) (lib : Library) :
    (act >>= fun a => pure (f a)).on lib = ((act.on lib).1, f <$> (act.on lib).2) := by
  rcases hact : act.on lib with ⟨mid, fault | a⟩
  · rw [on_bind_error hact]
    rfl
  · rw [on_bind_ok hact]
    rfl

end Act

/-! ## All or nothing -/

/-- What the service can do with its templates. -/
inductive Operation where
  | create (data : Fields)
  | update (id : Value) (updates : Fields)
  | delete (id : Value)
  | copy (source name description createdBy : Value)
  | render (id context : Value) (marked : Bool)

namespace Operation

/-- The request for an operation. -/
def request : Operation → Shelf.Request
  | create data => .create data
  | update id updates => .update id updates
  | delete id => .delete id
  | copy source name description createdBy => .copy source name description createdBy
  | render id context marked => .render id context marked

/-- An operation step by step, when some identifiers are taken. -/
def act [Halves] (taken : Nat) (now : Stamp) : Operation → Act Value
  | create data => do
    let (fields, _) ← Act.given (Forms.checked .template "Template" now data taken)
    return (← Act.create (ofFields fields)).toValue
  | update id updates => return Shelf.shown (← Act.update id updates now)
  | delete id => return .bool (← Act.delete id)
  | copy source name description createdBy =>
    return (← Act.copy source name description createdBy now).toValue
  | render id context marked => return .text (← Act.render id context marked)

/-- The answer about a template that is not found. -/
def isMiss (v : Value) : Prop := v = .null ∨ v = .bool false

/-- Nothing has come of an operation: it has failed, or it has not found its template. -/
def Missed (outcome : Outcome Value) : Prop := ∀ v, outcome = .ok v → isMiss v

theorem careful_act [Halves] (taken : Nat) (now : Stamp) (operation : Operation) :
    Act.Careful isMiss (operation.act taken now) := by
  have htemplate : ∀ t : Template, ¬isMiss t.toValue := by
    rintro t (h | h) <;> cases h
  cases operation with
  | create data =>
      exact .bind (Act.reads_given _) fun _ => (Act.careful_create _).tell htemplate
  | update id updates =>
      refine (Act.careful_update id updates now).tell fun found hmiss => ?_
      cases found with
      | none => rfl
      | some t => exact absurd hmiss (htemplate t)
  | delete id =>
      refine (Act.careful_delete id).tell fun gone hmiss => ?_
      rcases hmiss with h | h
      · cases h
      · exact Value.bool.inj h
  | copy source name description createdBy =>
      exact (Act.careful_copy source name description createdBy now).tell htemplate
  | render id context marked =>
      exact ((Act.reads_render id context marked).bind fun _ => Act.reads_pure _).careful _

/-- The shelf answers with what the steps of the operation give, and keeps what they leave. -/
theorem answer_eq_act [Halves] (s : Shelf) (now : Stamp) (operation : Operation) :
    ((s.answer now operation.request).1.library, (s.answer now operation.request).2) =
      (operation.act s.taken now).on s.library := by
  cases operation with
  | create data =>
      have hgiven := Act.on_given (Forms.checked .template "Template" now data s.taken) s.library
      rw [request, Shelf.answer, Shelf.create, act]
      cases hchecked : Forms.checked .template "Template" now data s.taken with
      | error f =>
          rw [hchecked] at hgiven
          exact (Act.on_bind_error hgiven).symm
      | ok made =>
          obtain ⟨fields, taken⟩ := made
          obtain ⟨i, hid⟩ := (declared_ofFields (Forms.fits_of_checked hchecked)).1.id.eq_ident
          have hkey : (ofFields fields).id.isScalar = true := by rw [hid]; rfl
          rw [hchecked] at hgiven
          rw [Act.on_bind_ok hgiven, Act.on_tell, Act.on_create hkey]
          dsimp only
          cases s.library.create (ofFields fields) <;> rfl
  | update id updates =>
      rw [act, Act.on_tell, Act.on_update, request, Shelf.answer]
      cases s.library.update id updates now <;> rfl
  | delete id =>
      rw [act, Act.on_tell, Act.on_delete, request, Shelf.answer]
      cases s.library.delete id <;> rfl
  | copy source name description createdBy =>
      rw [act, Act.on_tell, Act.on_copy, request, Shelf.answer]
      cases s.library.copy source name description createdBy now <;> rfl
  | render id context marked =>
      rw [act, Act.on_tell, Act.on_render]
      rfl

end Operation

/-- Whatever the state of the shelf, an operation does step by step what the shelf answers; and if
it fails, or answers that there is no such template, all keys stand in their order with the
templates that were there before, although a fault takes nothing back.  The same is true when a
template is added that was not made from data, and may have an identifier that cannot be a key. -/
theorem failed_operations_leave_library [Halves] (s : Shelf) (now : Stamp) (operation : Operation) :
    let done := (operation.act s.taken now).on s.library
    (s.answer now operation.request).1.library = done.1 ∧
      (s.answer now operation.request).2 = done.2 ∧
      (Operation.Missed done.2 → done.1.entries = s.library.entries) ∧
      ∀ (t : Template) (f : Fault), ((Act.create t).on s.library).2 = .error f →
        ((Act.create t).on s.library).1.entries = s.library.entries := by
  intro done
  obtain ⟨hlibrary, houtcome⟩ := Prod.mk.inj (Operation.answer_eq_act s now operation)
  refine ⟨hlibrary, houtcome, ?_, ?_⟩
  · intro hmissed
    exact congrArg Library.entries (operation.careful_act s.taken now s.library hmissed)
  · intro t f hf
    refine congrArg Library.entries (Act.careful_create t s.library fun a ha => ?_)
    rw [hf] at ha
    cases ha

/-! ### A key that can be none -/

/-- The name of the standard requirements is changed together with their identifier, which becomes a
list. -/
def listedIdentifier : Operation :=
  .update (.ident (Ident.ofSupply 1)) [("name", .text "Other"), ("id", .list [])]

section

open scoped Halves.Plain

/-- The change fails, and the standard requirements keep their name. -/
theorem listedIdentifier_changes_nothing :
    Operation.Missed ((Shelf.start ⟨0, none⟩).answer ⟨0, none⟩ listedIdentifier.request).2 ∧
      ((Shelf.start ⟨0, none⟩).answer ⟨0, none⟩ listedIdentifier.request).1.library.entries =
        (Library.start ⟨0, none⟩).entries := by
  have hfault : ((Shelf.start ⟨0, none⟩).answer ⟨0, none⟩ listedIdentifier.request).2.isOk =
      false := by
    decide +kernel
  have hmissed : Operation.Missed
      ((Shelf.start ⟨0, none⟩).answer ⟨0, none⟩ listedIdentifier.request).2 := by
    intro v hv
    rw [hv] at hfault
    cases hfault
  obtain ⟨hlibrary, houtcome, hleft, -⟩ :=
    failed_operations_leave_library (Shelf.start ⟨0, none⟩) ⟨0, none⟩ listedIdentifier
  refine ⟨hmissed, ?_⟩
  rw [hlibrary]
  exact hleft (houtcome ▸ hmissed)

end

end Scriptorium.Template
