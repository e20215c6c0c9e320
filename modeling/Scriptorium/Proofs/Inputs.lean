import Mathlib.Data.List.Basic
import Scriptorium.Inputs.Intake
import Scriptorium.Proofs.Fields
import Scriptorium.Proofs.Forms
import Scriptorium.Proofs.Outcome
import Scriptorium.Proofs.Schema.Fits
import Scriptorium.Proofs.Text.Case
import Scriptorium.Proofs.Transcript
set_option autoImplicit false

/-!
# What projects collect

A run of requests is read from its transcript: `itemsFor` lists what was brought to a project, each
item once and in order.  A project comes into being with the first item, which may be the whole
project or something added to one that is not there yet; whatever is brought later is appended.  The
main statement is `kept_run`: after every run each project holds just what was brought to it, and a
project that nothing was brought to is not there.  What a project shows of it are the records that
passed the check, as they were then.

A project is filed under the name in its request and has the name in its data.  The two differ just
if a request that founded a project gave it data of another one.

A search compares lower forms.  What it finds is complete up to one letter: the lower form of a
capital sigma hangs on whether it ends a word, and a query can end where a word goes on.
-/

namespace Scriptorium.Inputs

/-! ## Items -/

/-- What a request can bring to a project: the whole project, or one item more. -/
inductive Item where
  | whole (p : Project)
  | snippet (s : Snippet)
  | comment (c : Comment)
  | prompt (p : Prompt)

namespace Item

def whole? : Item → Option Project
  | whole p => some p
  | _ => none

def snippet? : Item → Option Snippet
  | snippet s => some s
  | _ => none

def comment? : Item → Option Comment
  | comment c => some c
  | _ => none

def prompt? : Item → Option Prompt
  | prompt p => some p
  | _ => none

/-- What a project is once it is given an item.  A project that is there is not replaced. -/
def into (now : Stamp) (p : Project) : Item → Project
  | whole _ => p
  | snippet s => { p with snippets := p.snippets ++ [s], updatedAt := .stamp now }
  | comment c => { p with comments := p.comments ++ [c], updatedAt := .stamp now }
  | prompt q => { p with prompts := p.prompts ++ [q], updatedAt := .stamp now }

/-- What becomes of a project that may not be there yet. -/
def settle (id : String) (now : Stamp) (item : Item) : Option Project → Project
  | some p => item.into now p
  | none => (item.whole?).getD (item.into now (.empty id now))

end Item

/-- The project that the first item gave as a whole. -/
def founder? (items : List Item) : Option Project := items.head?.bind Item.whole?

/-- One of the lists that a project collects: how it is read off a project, and what an item adds
to it. -/
structure Strand (α : Type) where
  given : Project → List α
  added? : Item → Option α
  given_empty : ∀ id now, given (.empty id now) = []
  given_into : ∀ now p (item : Item), given (item.into now p) = given p ++ (added? item).toList
  added?_whole : ∀ p, added? (.whole p) = none

namespace Strand

def snippets : Strand Snippet where
  given := (·.snippets)
  added? := Item.snippet?
  given_empty _ _ := rfl
  given_into _ p item := by cases item <;> simp [Item.into, Item.snippet?]
  added?_whole _ := rfl

def comments : Strand Comment where
  given := (·.comments)
  added? := Item.comment?
  given_empty _ _ := rfl
  given_into _ p item := by cases item <;> simp [Item.into, Item.comment?]
  added?_whole _ := rfl

def prompts : Strand Prompt where
  given := (·.prompts)
  added? := Item.prompt?
  given_empty _ _ := rfl
  given_into _ p item := by cases item <;> simp [Item.into, Item.prompt?]
  added?_whole _ := rfl

variable {α : Type} (strand : Strand α)

/-- What a list holds when these items have been brought to its project. -/
def collected (items : List Item) : List α :=
  ((founder? items).map strand.given).getD [] ++ items.filterMap strand.added?

/-- The first item makes the project. -/
theorem collected_singleton (id : String) (now : Stamp) (item : Item) :
    strand.collected [item] = strand.given (item.settle id now none) := by
  cases hwhole : item.whole? with
  | some p =>
      have hitem : item = .whole p := by
        cases item <;> simp_all [Item.whole?]
      subst hitem
      simp [collected, founder?, Item.settle, Item.whole?, strand.added?_whole]
  | none =>
      simp only [collected, founder?, List.head?_cons, Option.bind_some, hwhole, Option.map_none,
        Option.getD_none, List.nil_append, Item.settle, strand.given_into, strand.given_empty]
      cases hadded : strand.added? item <;> simp [hadded]

/-- An item behind the first one goes last. -/
theorem collected_snoc {items : List Item} (hsome : items ≠ []) (item : Item) :
    strand.collected (items ++ [item]) =
      strand.collected items ++ (strand.added? item).toList := by
  have hfounder : founder? (items ++ [item]) = founder? items := by
    obtain ⟨first, rest, rfl⟩ := List.exists_cons_of_ne_nil hsome
    rfl
  rw [collected, hfounder, List.filterMap_append, ← List.append_assoc]
  cases hadded : strand.added? item <;> simp [collected, hadded]

/-- The list of a project that is there once something has been brought to it. -/
def expected (items : List Item) : Option (List α) :=
  if items.isEmpty then none else some (strand.collected items)

/-- One item more, whether it makes its project or finds it there. -/
theorem expected_snoc {found : Option Project} {items : List Item}
    (h : found.map strand.given = strand.expected items) (id : String) (now : Stamp)
    (item : Item) :
    some (strand.given (item.settle id now found)) = strand.expected (items ++ [item]) := by
  have hlast : strand.expected (items ++ [item]) = some (strand.collected (items ++ [item])) := by
    simp [expected]
  rw [hlast]
  cases items with
  | nil =>
      have hnone : found = none := by simpa [expected] using h
      rw [hnone, List.nil_append, strand.collected_singleton id now]
  | cons first rest =>
      have hsome : found.map strand.given = some (strand.collected (first :: rest)) := h
      obtain ⟨p, rfl, hp⟩ := Option.map_eq_some_iff.mp hsome
      rw [strand.collected_snoc (List.cons_ne_nil _ _), ← hp, Item.settle, strand.given_into]

end Strand

/-! ## Runs -/

/-- A request and when it is made. -/
structure Errand where
  now : Stamp
  request : Intake.Request

/-- An errand with the number of identifiers that were in use, and what was answered. -/
structure Exchange extends Errand where
  taken : Nat
  answer : Outcome Value

/-- Runs an errand; gives the intake after it and the exchange. -/
def Intake.exchange [Halves] (s : Intake) (errand : Errand) : Intake × Exchange :=
  let after := s.answer errand.now errand.request
  (after.1, ⟨errand, s.taken, after.2⟩)

/-- Runs errands one after the other; gives the intake after them and the transcript. -/
def run [Halves] (errands : List Errand) (s : Intake) : Intake × List Exchange :=
  Transcript.run Intake.exchange errands s

/-- What every errand keeps, every run keeps. -/
theorem keeps_run [Halves] (Agree : Intake → List Exchange → Prop)
    (hstep : ∀ s t errand, Agree s t →
      Agree (s.exchange errand).1 (t ++ [(s.exchange errand).2]))
    (errands : List Errand) {s : Intake} {t : List Exchange} (h : Agree s t) :
    Agree (run errands s).1 (t ++ (run errands s).2) :=
  Transcript.keeps_run (fun _ => True) (fun _ _ _ => trivial) Agree
    (fun s t errand hagree _ => hstep s t errand hagree) errands h trivial

/-- The project that a request is about and the item that it brings, once its data have passed the
check.  Requests that read bring nothing. -/
def Intake.Request.item? [Halves] (now : Stamp) (taken : Nat) :
    Intake.Request → Option (String × Item)
  | .create id data => (Forms.checked .projectInput "ProjectInput" now data taken).toOption.map
      fun checked => (id, .whole (.ofFields checked.1))
  | .addSnippet id data => (Forms.checked .inputSnippet "CodeSnippet" now data taken).toOption.map
      fun checked => (id, .snippet (.ofFields checked.1))
  | .addComment id data => (Forms.checked .inputComment "Comment" now data taken).toOption.map
      fun checked => (id, .comment (.ofFields checked.1))
  | .addPrompt id data => (Forms.checked .inputPrompt "UserPrompt" now data taken).toOption.map
      fun checked => (id, .prompt (.ofFields checked.1))
  | .get _ | .search _ _ => none

/-- What an exchange brought. -/
def Exchange.item? [Halves] (x : Exchange) : Option (String × Item) := x.request.item? x.now x.taken

/-- What was brought to a project, in order. -/
def itemsFor [Halves] (t : List Exchange) (id : String) : List Item :=
  ((t.filterMap (·.item?)).filter (·.1 == id)).map (·.2)

section Snoc

variable {t : List Exchange} {x : Exchange} {id : String}

theorem itemsFor_snoc_of_some [Halves] {item : Item} (h : x.item? = some (id, item)) :
    itemsFor (t ++ [x]) id = itemsFor t id ++ [item] := by
  simp [itemsFor, h]

theorem itemsFor_snoc_of_ne [Halves] (h : ∀ item, x.item? ≠ some (id, item)) :
    itemsFor (t ++ [x]) id = itemsFor t id := by
  cases hitem : x.item? with
  | none => simp [itemsFor, hitem]
  | some brought =>
      obtain ⟨other, item⟩ := brought
      have hne : other ≠ id := by
        rintro rfl
        exact h item hitem
      simp [itemsFor, hitem, hne]

end Snoc

/-! ## What one request does -/

section Answer

variable (s : Intake) (now : Stamp)

/-- What an item makes of a store: its project is made, or the item is added to it. -/
def Item.file (id : String) (now : Stamp) (item : Item) (store : Store) : Store :=
  Fields.put store id (item.settle id now (Fields.get? store id))

/-- Adding something to a project is filing it. -/
theorem addTo_eq_file (store : Store) (id : String) {add : Project → Project} (item : Item)
    (hwhole : item.whole? = none)
    (hadd : ∀ p, { add p with updatedAt := .stamp now } = item.into now p) :
    addTo store id now add = item.file id now store := by
  unfold addTo Item.file
  cases Fields.get? store id with
  | none => simp [Item.settle, hwhole, hadd]
  | some p => simp [Item.settle, hadd]

/-- A request files what it brings and changes nothing else. -/
theorem store_answer [Halves] (request : Intake.Request) :
    (s.answer now request).1.store =
      ((request.item? now s.taken).map fun brought =>
        brought.2.file brought.1 now s.store).getD s.store := by
  cases request with
  | get id => rfl
  | search id query => rfl
  | create id data =>
      simp only [Intake.answer, Intake.create, Intake.Request.item?]
      cases Forms.checked .projectInput "ProjectInput" now data s.taken with
      | error f => rfl
      | ok checked =>
          simp only [Inputs.create, Except.toOption, Option.map_some, Option.getD_some, Item.file]
          cases hget : Fields.get? s.store id with
          | none =>
              have habsent : Fields.has s.store id = false := by
                rw [Bool.eq_false_iff, ne_eq, Fields.has_eq_true_iff]
                exact (Fields.get?_eq_none_iff _ _).mp hget
              simp [habsent, Item.settle, Item.whole?]
          | some p =>
              have hthere : Fields.has s.store id = true :=
                (Fields.has_eq_true_iff _ _).mpr ((Fields.mem_names_iff _ _).mpr ⟨p, hget⟩)
              simp [hthere, Item.settle, Item.into, Fields.put_of_get?_eq_some hget]
  | addSnippet id data =>
      simp only [Intake.answer, Intake.addSnippet, Intake.Request.item?]
      cases Forms.checked .inputSnippet "CodeSnippet" now data s.taken with
      | error f => rfl
      | ok checked =>
          have hfile : Inputs.addSnippet s.store id (.ofFields checked.1) now =
              Item.file id now (.snippet (.ofFields checked.1)) s.store :=
            addTo_eq_file now s.store id _ rfl fun _ => rfl
          exact hfile
  | addComment id data =>
      simp only [Intake.answer, Intake.addComment, Intake.Request.item?]
      cases Forms.checked .inputComment "Comment" now data s.taken with
      | error f => rfl
      | ok checked =>
          have hfile : Inputs.addComment s.store id (.ofFields checked.1) now =
              Item.file id now (.comment (.ofFields checked.1)) s.store :=
            addTo_eq_file now s.store id _ rfl fun _ => rfl
          exact hfile
  | addPrompt id data =>
      simp only [Intake.answer, Intake.addPrompt, Intake.Request.item?]
      cases Forms.checked .inputPrompt "UserPrompt" now data s.taken with
      | error f => rfl
      | ok checked =>
          have hfile : Inputs.addPrompt s.store id (.ofFields checked.1) now =
              Item.file id now (.prompt (.ofFields checked.1)) s.store :=
            addTo_eq_file now s.store id _ rfl fun _ => rfl
          exact hfile

theorem settle_of_error {done : Outcome (Intake × Value)} {f : Fault}
    (h : (s.settle done).2 = .error f) : (s.settle done).1 = s := by
  cases done with
  | error f => rfl
  | ok result => cases h

/-- A request that is refused leaves every project as it was. -/
theorem store_answer_of_error [Halves] {request : Intake.Request} {f : Fault}
    (h : (s.answer now request).2 = .error f) : (s.answer now request).1.store = s.store := by
  cases request with
  | get id => rfl
  | search id query => rfl
  | create id data =>
      simp only [Intake.answer, Intake.create] at h ⊢
      cases hdata : Forms.checked .projectInput "ProjectInput" now data s.taken with
      | error f => rfl
      | ok checked =>
          simp only [hdata] at h ⊢
          cases hmade : Inputs.create s.store id (.ofFields checked.1) with
          | error f => rfl
          | ok store => simp [hmade] at h
  | addSnippet id data | addComment id data | addPrompt id data =>
      exact congrArg Intake.store (settle_of_error s h)

/-- A project is made of good data unless it is there. -/
theorem answer_create [Halves] (id : String) (data : Fields) :
    (s.answer now (.create id data)).2 =
      (Forms.checked .projectInput "ProjectInput" now data s.taken).bind fun _ =>
        if (Fields.get? s.store id).isSome then .error (refuse 400 "Project input already exists")
        else .ok (.record [("message", .text "Project input created successfully"),
          ("project_id", .text id)]) := by
  have hhas : Fields.has s.store id = (Fields.get? s.store id).isSome := by
    rw [Bool.eq_iff_iff, Fields.has_eq_true_iff, Fields.mem_names_iff, Option.isSome_iff_exists]
  simp only [Intake.answer, Intake.create, Inputs.create, hhas]
  cases Forms.checked .projectInput "ProjectInput" now data s.taken with
  | error f => rfl
  | ok checked => cases Fields.get? s.store id <;> rfl

/-- A request leaves a project as it was, or brings it one item more. -/
theorem get?_answer_cases [Halves] (t : List Exchange) (errand : Errand) (id : String) :
    let after := s.answer errand.now errand.request
    let longer := t ++ [⟨errand, s.taken, after.2⟩]
    (Fields.get? after.1.store id = Fields.get? s.store id ∧ itemsFor longer id = itemsFor t id) ∨
      ∃ item : Item, Fields.get? after.1.store id =
          some (item.settle id errand.now (Fields.get? s.store id)) ∧
        itemsFor longer id = itemsFor t id ++ [item] := by
  intro after longer
  rw [store_answer]
  cases hitem : errand.request.item? errand.now s.taken with
  | none =>
      exact .inl ⟨rfl, itemsFor_snoc_of_ne fun item => by simp [Exchange.item?, hitem]⟩
  | some brought =>
      obtain ⟨other, item⟩ := brought
      simp only [Option.map_some, Option.getD_some, Item.file]
      by_cases hother : other = id
      · subst hother
        exact .inr ⟨item, Fields.get?_put_self _ _ _, itemsFor_snoc_of_some hitem⟩
      · refine .inl ⟨Fields.get?_put_of_ne _ _ (Ne.symm hother), ?_⟩
        exact itemsFor_snoc_of_ne fun item => by simp [Exchange.item?, hitem, hother]

end Answer

/-! ## What runs keep -/

section Kept

variable {α : Type} {strand : Strand α}

/-- Each project holds what was brought to it, and there is no other project. -/
def Kept [Halves] (strand : Strand α) (store : Store) (t : List Exchange) : Prop :=
  ∀ id : String, (Fields.get? store id).map strand.given = strand.expected (itemsFor t id)

/-- A project is there just if something was brought to it. -/
theorem Kept.isSome [Halves] {store : Store} {t : List Exchange} (h : Kept strand store t)
    (id : String) :
    (Fields.get? store id).isSome = !(itemsFor t id).isEmpty := by
  have hsome := congrArg Option.isSome (h id)
  rw [Option.isSome_map] at hsome
  rw [hsome, Strand.expected]
  cases (itemsFor t id).isEmpty <;> rfl

/-- What one request keeps. -/
theorem Kept.answer [Halves] {s : Intake} {t : List Exchange} (h : Kept strand s.store t)
    (errand : Errand) :
    Kept strand (s.answer errand.now errand.request).1.store
      (t ++ [⟨errand, s.taken, (s.answer errand.now errand.request).2⟩]) := by
  intro id
  rcases get?_answer_cases s t errand id with ⟨hget, hitems⟩ | ⟨item, hget, hitems⟩
  · rw [hget, hitems]
    exact h id
  · rw [hget, hitems, Option.map_some]
    exact strand.expected_snoc (h id) id errand.now item

/-- What a run from the beginning keeps. -/
theorem kept_run [Halves] (strand : Strand α) (errands : List Errand) :
    Kept strand (run errands {}).1.store (run errands {}).2 := by
  have hnil : Kept strand ({} : Intake).store [] := by
    intro id
    rfl
  exact keeps_run (fun s t => Kept strand s.store t) (fun _ _ errand hkept => hkept.answer errand)
    errands hnil

end Kept

/-! ## What projects show

What was brought is data that passed a check.  A project shows the records in these data: those that
stand in the lists of the data that founded it, and each record that was added.
-/

section Records

open Schema Forms

variable [Halves] {fields : Fields} {kind : FormName} (h : Fits form (.form kind) (.record fields))

include h

/-- A fitting record has the fields of its form in their order. -/
theorem eq_fields_of_fits :
    fields = (form kind).fields.map fun slot => (slot.name, valueOf fields slot.name) :=
  eq_map_of_names ((fits_record_iff (nodup_names kind) fields).mp h).1 (nodup_names kind)

theorem takes_of_fits (slot : FormField) (hslot : slot ∈ (form kind).fields) :
    slot.Takes form (valueOf fields slot.name) :=
  ((fits_record_iff (nodup_names kind) fields).mp h).2 slot hslot

/-- A field that has to be a text is read as the text that it is. -/
theorem text_textOf (slot : FormField) (hslot : slot ∈ (form kind).fields)
    (hshape : slot.shape = anyText) (hneeded : slot.takesNothing = false) :
    .text (textOf fields slot.name) = valueOf fields slot.name := by
  have hfits := (takes_of_fits h slot hslot).fits hneeded
  rw [hshape] at hfits
  obtain ⟨s, hs⟩ := hfits.eq_text
  rw [hs]
  unfold valueOf at hs
  unfold textOf
  cases hget : Fields.get? fields slot.name with
  | none => simp [hget] at hs
  | some v =>
      obtain rfl : v = .text s := by simpa [hget] using hs
      rfl

/-- So is one that may be nothing. -/
theorem ofText?_valueOf (slot : FormField) (hslot : slot ∈ (form kind).fields)
    (hshape : slot.shape = anyText) :
    .ofText? (valueOf fields slot.name).text? = valueOf fields slot.name := by
  rcases (takes_of_fits h slot hslot).null_or_fits with hnull | hfits
  · rw [hnull]
    rfl
  · rw [hshape] at hfits
    obtain ⟨s, hs⟩ := hfits.eq_text
    rw [hs]
    rfl

end Records

section Shown

open Schema Forms

variable {fields : Fields}

theorem Snippet.toValue_ofFields [Halves] (h : Fits form (.form .inputSnippet) (.record fields)) :
    (Snippet.ofFields fields).toValue = .record fields := by
  have hid := text_textOf h textIdent (by simp [form, Forms.fields]) rfl rfl
  have hlanguage :=
    text_textOf h (.required "language" anyText) (by simp [form, Forms.fields]) rfl rfl
  have hcontent :=
    text_textOf h (.required "content" anyText) (by simp [form, Forms.fields]) rfl rfl
  have hpath := ofText?_valueOf h (.optional "file_path" anyText) (by simp [form, Forms.fields]) rfl
  refine Eq.trans ?_ (congrArg Value.record (eq_fields_of_fits h)).symm
  simp only [textIdent, Slot.required, Slot.optional] at hid hlanguage hcontent hpath
  rw [Snippet.toValue, Snippet.ofFields, hid, hlanguage, hcontent, hpath]
  rfl

theorem Comment.toValue_ofFields [Halves] (h : Fits form (.form .inputComment) (.record fields)) :
    (Comment.ofFields fields).toValue = .record fields := by
  have hid := text_textOf h textIdent (by simp [form, Forms.fields]) rfl rfl
  have hcontent :=
    text_textOf h (.required "content" anyText) (by simp [form, Forms.fields]) rfl rfl
  have hauthor := text_textOf h (.required "author" anyText) (by simp [form, Forms.fields]) rfl rfl
  have hpath := ofText?_valueOf h (.optional "file_path" anyText) (by simp [form, Forms.fields]) rfl
  refine Eq.trans ?_ (congrArg Value.record (eq_fields_of_fits h)).symm
  simp only [textIdent, Slot.required, Slot.optional] at hid hcontent hauthor hpath
  rw [Comment.toValue, Comment.ofFields, hid, hcontent, hauthor, hpath]
  rfl

theorem Prompt.toValue_ofFields [Halves] (h : Fits form (.form .inputPrompt) (.record fields)) :
    (Prompt.ofFields fields).toValue = .record fields := by
  have hid := text_textOf h textIdent (by simp [form, Forms.fields]) rfl rfl
  have hcontent :=
    text_textOf h (.required "content" anyText) (by simp [form, Forms.fields]) rfl rfl
  refine Eq.trans ?_ (congrArg Value.record (eq_fields_of_fits h)).symm
  simp only [textIdent, Slot.required] at hid hcontent
  rw [Prompt.toValue, Prompt.ofFields, hid, hcontent]
  rfl

/-- The items of a list in the data of a project. -/
def listUnder (body : Fields) (key : String) : List Value :=
  ((Fields.get? body key).bind Value.list?).getD []

/-- The records of a list of fitting records are the list. -/
theorem map_recordsOf [Halves] {body : Fields} {kind : FormName} {key : String}
    {shown : Fields → Value} (hlist : Fits form (.list (.form kind)) (valueOf body key))
    (hshown : ∀ fields, Fits form (.form kind) (.record fields) → shown fields = .record fields) :
    (recordsOf body key).map shown = listUnder body key := by
  obtain ⟨items, hitems, hfit⟩ := hlist.eq_list
  have hunder : listUnder body key = items := by
    unfold valueOf at hitems
    unfold listUnder
    cases hget : Fields.get? body key with
    | none => simp [hget] at hitems
    | some v =>
        obtain rfl : v = .list items := by simpa [hget] using hitems
        rfl
  rw [hunder, recordsOf, hitems, List.map_map]
  refine (List.map_congr_left fun v hv => ?_).trans (List.map_id' items)
  obtain ⟨fields, rfl, -⟩ := (hfit v hv).eq_record
  exact hshown fields (hfit _ hv)

end Shown

/-- Data that passed a check and were brought to a project: those of a whole project, or of one item
more. -/
inductive Gift where
  | whole (body : Fields)
  | snippet (body : Fields)
  | comment (body : Fields)
  | prompt (body : Fields)

namespace Gift

/-- The record of a snippet that was brought. -/
def snippet? : Gift → Option Value
  | snippet body => some (.record body)
  | _ => none

/-- The record of a comment that was brought. -/
def comment? : Gift → Option Value
  | comment body => some (.record body)
  | _ => none

/-- The record of a prompt that was brought. -/
def prompt? : Gift → Option Value
  | prompt body => some (.record body)
  | _ => none

/-- A list in the data that founded a project, if whole data did. -/
def founding (key : String) : List Gift → List Value
  | whole body :: _ => listUnder body key
  | _ => []

/-- What a project takes from data. -/
def item : Gift → Item
  | whole body => .whole (.ofFields body)
  | snippet body => .snippet (.ofFields body)
  | comment body => .comment (.ofFields body)
  | prompt body => .prompt (.ofFields body)

/-- The data fit the form that they were checked against. -/
def IsSound [Halves] : Gift → Prop
  | whole body => Schema.Fits Forms.form (.form .projectInput) (.record body)
  | snippet body => Schema.Fits Forms.form (.form .inputSnippet) (.record body)
  | comment body => Schema.Fits Forms.form (.form .inputComment) (.record body)
  | prompt body => Schema.Fits Forms.form (.form .inputPrompt) (.record body)

end Gift

/-- The project that a request is about and the data that it brings, once they have passed the
check. -/
def Intake.Request.gift? [Halves] (now : Stamp) (taken : Nat) :
    Intake.Request → Option (String × Gift)
  | .create id data => (Forms.checked .projectInput "ProjectInput" now data taken).toOption.map
      fun checked => (id, .whole checked.1)
  | .addSnippet id data => (Forms.checked .inputSnippet "CodeSnippet" now data taken).toOption.map
      fun checked => (id, .snippet checked.1)
  | .addComment id data => (Forms.checked .inputComment "Comment" now data taken).toOption.map
      fun checked => (id, .comment checked.1)
  | .addPrompt id data => (Forms.checked .inputPrompt "UserPrompt" now data taken).toOption.map
      fun checked => (id, .prompt checked.1)
  | .get _ | .search _ _ => none

/-- The data that were brought to a project, in order. -/
def giftsFor [Halves] (t : List Exchange) (id : String) : List Gift :=
  ((t.filterMap fun x => x.request.gift? x.now x.taken).filter (·.1 == id)).map (·.2)

section Gifts

variable {now : Stamp} {taken : Nat} {request : Intake.Request}

theorem item?_eq_map_gift? [Halves] :
    request.item? now taken = (request.gift? now taken).map fun brought =>
      (brought.1, brought.2.item) := by
  cases request with
  | get | search => rfl
  | _ =>
      simp only [Intake.Request.item?, Intake.Request.gift?, Option.map_map]
      rfl

theorem isSound_of_gift? [Halves] {id : String} {gift : Gift}
    (h : request.gift? now taken = some (id, gift)) : gift.IsSound := by
  cases request with
  | get | search => cases h
  | _ =>
      obtain ⟨checked, hchecked, hgift⟩ := Option.map_eq_some_iff.mp h
      obtain ⟨-, rfl⟩ := Prod.mk.inj hgift
      exact Forms.fits_of_checked (Outcome.eq_ok_of_toOption hchecked)

theorem itemsFor_eq_map [Halves] (t : List Exchange) (id : String) :
    itemsFor t id = (giftsFor t id).map Gift.item := by
  have hitems : t.filterMap (·.item?) =
      (t.filterMap fun x => x.request.gift? x.now x.taken).map fun brought =>
        (brought.1, brought.2.item) := by
    rw [List.map_filterMap]
    refine List.filterMap_congr fun x _ => ?_
    rw [Exchange.item?, item?_eq_map_gift?]
  rw [itemsFor, hitems, giftsFor, List.filter_map, List.map_map, List.map_map]
  rfl

theorem isSound_of_mem_giftsFor [Halves] {t : List Exchange} {id : String} {gift : Gift}
    (h : gift ∈ giftsFor t id) : gift.IsSound := by
  obtain ⟨brought, hbrought, rfl⟩ := List.mem_map.mp h
  obtain ⟨x, -, hx⟩ := List.mem_filterMap.mp (List.mem_filter.mp hbrought).1
  exact isSound_of_gift? hx

end Gifts

/-- A list that a project collects, and how the project shows it: under which name it stands in the
data of a project, and which records are added to it. -/
structure Display [Halves] {α : Type} (strand : Strand α) where
  key : String
  shown : α → Value
  brought? : Gift → Option Value
  shown_given : ∀ body, (Gift.whole body).IsSound →
    (strand.given (.ofFields body)).map shown = listUnder body key
  shown_added : ∀ gift : Gift, gift.IsSound →
    (strand.added? gift.item).map shown = brought? gift

namespace Display

open Schema Forms

def snippets [Halves] : Display .snippets where
  key := "code_snippets"
  shown := (·.toValue)
  brought? := Gift.snippet?
  shown_given body h := by
    have hlist := (takes_of_fits h
      (.defaulted "code_snippets" (.list (.form .inputSnippet)) (.list []))
      (by simp [form, Forms.fields])).fits rfl
    rw [Strand.snippets, Project.ofFields, List.map_map]
    exact map_recordsOf hlist fun _ hfits => Snippet.toValue_ofFields hfits
  shown_added gift h := by
    cases gift with
    | snippet body => exact congrArg some (Snippet.toValue_ofFields h)
    | _ => rfl

def comments [Halves] : Display .comments where
  key := "comments"
  shown := (·.toValue)
  brought? := Gift.comment?
  shown_given body h := by
    have hlist := (takes_of_fits h
      (.defaulted "comments" (.list (.form .inputComment)) (.list []))
      (by simp [form, Forms.fields])).fits rfl
    rw [Strand.comments, Project.ofFields, List.map_map]
    exact map_recordsOf hlist fun _ hfits => Comment.toValue_ofFields hfits
  shown_added gift h := by
    cases gift with
    | comment body => exact congrArg some (Comment.toValue_ofFields h)
    | _ => rfl

def prompts [Halves] : Display .prompts where
  key := "user_prompts"
  shown := (·.toValue)
  brought? := Gift.prompt?
  shown_given body h := by
    have hlist := (takes_of_fits h
      (.defaulted "user_prompts" (.list (.form .inputPrompt)) (.list []))
      (by simp [form, Forms.fields])).fits rfl
    rw [Strand.prompts, Project.ofFields, List.map_map]
    exact map_recordsOf hlist fun _ hfits => Prompt.toValue_ofFields hfits
  shown_added gift h := by
    cases gift with
    | prompt body => exact congrArg some (Prompt.toValue_ofFields h)
    | _ => rfl

variable [Halves] {α : Type} {strand : Strand α} (display : Display strand)

/-- What is shown of a list when these data have been brought to its project. -/
def expected (gifts : List Gift) : List Value :=
  Gift.founding display.key gifts ++ gifts.filterMap display.brought?

/-- The records are shown as they were brought. -/
theorem map_collected {gifts : List Gift} (h : ∀ gift ∈ gifts, gift.IsSound) :
    (strand.collected (gifts.map Gift.item)).map display.shown = display.expected gifts := by
  rw [Strand.collected, List.map_append, expected]
  congr 1
  · cases gifts with
    | nil => rfl
    | cons first rest =>
        cases first with
        | whole body => exact display.shown_given body (h _ List.mem_cons_self)
        | _ => rfl
  · rw [List.filterMap_map, List.map_filterMap]
    exact List.filterMap_congr fun gift hgift => display.shown_added gift (h gift hgift)

/-- So they are after every run, in every project that there is. -/
theorem map_given_run {errands : List Errand} {id : String} {p : Project}
    (hp : Fields.get? (run errands {}).1.store id = some p) :
    (strand.given p).map display.shown =
      display.expected (giftsFor (run errands {}).2 id) := by
  have hkept := kept_run strand errands id
  rw [hp, Option.map_some, Strand.expected] at hkept
  split at hkept
  · cases hkept
  · rw [Option.some.inj hkept, itemsFor_eq_map]
    exact display.map_collected fun gift hgift => isSound_of_mem_giftsFor hgift

end Display

/-- What is asked of a project is answered from what the store has of it. -/
theorem answer_get [Halves] (s : Intake) (now : Stamp) (id : String) :
    (s.answer now (.get id)).2 =
      ((Fields.get? s.store id).map fun p => .ok p.toValue).getD
        (.error (refuse 404 "Project not found")) := by
  simp only [Intake.answer, Inputs.get]
  cases Fields.get? s.store id <;> rfl

/-- After every run, a project is there just if data were brought to it, and each of its lists shows
the records that the request that founded it gave (none, if that was an addition), followed by the
records that were added to it, in order.  Founding it again is refused, what is refused changes no
project, and reading changes nothing at all. -/
theorem projects_collect_in_order [Halves] (errands : List Errand) (id : String) :
    let done := run errands {}
    let gifts := giftsFor done.2 id
    (∀ now, (gifts.isEmpty = true ∧
        (done.1.answer now (.get id)).2 = .error (refuse 404 "Project not found")) ∨
      (gifts.isEmpty = false ∧ ∃ name metadata createdAt updatedAt,
        (done.1.answer now (.get id)).2 = .ok (.record
          [("project_id", name),
            ("code_snippets", .list
              (Gift.founding "code_snippets" gifts ++ gifts.filterMap Gift.snippet?)),
            ("comments", .list (Gift.founding "comments" gifts ++ gifts.filterMap Gift.comment?)),
            ("user_prompts", .list
              (Gift.founding "user_prompts" gifts ++ gifts.filterMap Gift.prompt?)),
            ("metadata", metadata), ("created_at", createdAt), ("updated_at", updatedAt)]))) ∧
      (∀ now data, (done.1.answer now (.create id data)).2 =
        (Forms.checked .projectInput "ProjectInput" now data done.1.taken).bind fun _ =>
          if gifts.isEmpty then .ok (.record
            [("message", .text "Project input created successfully"), ("project_id", .text id)])
          else .error (refuse 400 "Project input already exists")) ∧
      (∀ now request, (∃ v, (done.1.answer now request).2 = .ok v) ∨
        (done.1.answer now request).1.store = done.1.store) ∧
      ∀ now query, (done.1.answer now (.get id)).1 = done.1 ∧
        (done.1.answer now (.search id query)).1 = done.1 := by
  intro done gifts
  have hthere : (Fields.get? done.1.store id).isSome = !gifts.isEmpty := by
    rw [(kept_run .snippets errands).isSome id, itemsFor_eq_map, List.isEmpty_map]
  refine ⟨?_, ?_, ?_, ?_⟩
  · intro now
    rw [answer_get]
    cases hp : Fields.get? done.1.store id with
    | none =>
        rw [hp] at hthere
        exact .inl ⟨by simpa using hthere, rfl⟩
    | some p =>
        rw [hp] at hthere
        refine .inr ⟨by simpa using hthere, .text p.projectId, p.metadata, p.createdAt,
          p.updatedAt, ?_⟩
        have hsnippets := Display.snippets.map_given_run hp
        have hcomments := Display.comments.map_given_run hp
        have hprompts := Display.prompts.map_given_run hp
        simp only [Strand.snippets, Strand.comments, Strand.prompts, Display.snippets,
          Display.comments, Display.prompts, Display.expected] at hsnippets hcomments hprompts
        simp only [Option.map_some, Option.getD_some, Project.toValue, hsnippets, hcomments,
          hprompts]
        rfl
  · intro now data
    rw [answer_create, hthere]
    cases gifts.isEmpty <;> rfl
  · intro now request
    cases hanswer : (done.1.answer now request).2 with
    | ok v => exact .inl ⟨v, rfl⟩
    | error f => exact .inr (store_answer_of_error done.1 now hanswer)
  · intro now query
    exact ⟨rfl, rfl⟩

/-! ## Under which name a project is filed

A request names the project that it is about, and the data of a whole project name one too.  A
project is filed under the first name and keeps the second.
-/

/-- Every project is filed under its own name. -/
def FiledByName (store : Store) : Prop :=
  ∀ (id : String) (p : Project), Fields.get? store id = some p → p.projectId = id

/-- Every project but one is filed under its own name. -/
def FiledByNameBut (id : String) (store : Store) : Prop :=
  ∀ (other : String) (p : Project), other ≠ id → Fields.get? store other = some p →
    p.projectId = other

theorem filedByName_iff (store : Store) (id : String) :
    FiledByName store ↔
      FiledByNameBut id store ∧ ∀ p, Fields.get? store id = some p → p.projectId = id := by
  constructor
  · exact fun hfiled => ⟨fun other p _ hp => hfiled other p hp, hfiled id⟩
  · rintro ⟨hothers, hid⟩ other p hp
    by_cases hother : other = id
    · exact hother ▸ hid p (hother ▸ hp)
    · exact hothers other p hother hp

theorem filedByName_put_iff (store : Store) (id : String) (q : Project) :
    FiledByName (Fields.put store id q) ↔ FiledByNameBut id store ∧ q.projectId = id := by
  rw [filedByName_iff _ id, Fields.get?_put_self]
  refine and_congr ?_ (by simp)
  refine forall_congr' fun other => forall_congr' fun p => forall_congr' fun hother => ?_
  rw [Fields.get?_put_of_ne _ _ hother]

/-- Whether an exchange founded a project under a name that its data do not give it. -/
def Exchange.misfiles [Halves] (x : Exchange) : Bool :=
  x.answer.isOk && x.item?.any fun brought => brought.2.whole?.any (·.projectId != brought.1)

/-- The name of a project to which these items have been brought. -/
def nameFrom (id : String) (items : List Item) : String :=
  ((founder? items).map (·.projectId)).getD id

namespace Item

variable (now : Stamp) (item : Item)

theorem projectId_into (p : Project) : (item.into now p).projectId = p.projectId := by
  cases item <;> rfl

/-- A project that an item makes has the name in the item, or else that of the request. -/
theorem projectId_settle_none (id : String) :
    (item.settle id now none).projectId = ((item.whole?).map (·.projectId)).getD id := by
  rw [settle]
  cases item.whole? with
  | none => exact item.projectId_into now _
  | some p => rfl

theorem projectId_settle_some (id : String) (p : Project) :
    (item.settle id now (some p)).projectId = p.projectId :=
  item.projectId_into now p

end Item

/-- Data of a whole project are taken just if the project is not there. -/
theorem isOk_answer_of_whole [Halves] {s : Intake} {now : Stamp} {request : Intake.Request}
    {id : String} {item : Item} {p : Project} (h : request.item? now s.taken = some (id, item))
    (hwhole : item.whole? = some p) :
    (s.answer now request).2.isOk = (Fields.get? s.store id).isNone := by
  cases request with
  | get | search => cases h
  | create founded data =>
      obtain ⟨checked, hchecked, hitem⟩ := Option.map_eq_some_iff.mp h
      obtain ⟨rfl, -⟩ := Prod.mk.inj hitem
      rw [answer_create, Outcome.eq_ok_of_toOption hchecked]
      cases Fields.get? s.store founded <;> rfl
  | addSnippet | addComment | addPrompt =>
      obtain ⟨checked, -, hitem⟩ := Option.map_eq_some_iff.mp h
      obtain ⟨-, rfl⟩ := Prod.mk.inj hitem
      cases hwhole

section Names

variable {s : Intake} (errand : Errand)

/-- Projects are filed by name after a request just if they were before and it misfiles none. -/
theorem filedByName_answer_iff [Halves] :
    FiledByName (s.answer errand.now errand.request).1.store ↔
      FiledByName s.store ∧
        Exchange.misfiles ⟨errand, s.taken, (s.answer errand.now errand.request).2⟩ = false := by
  rw [store_answer]
  simp only [Exchange.misfiles, Exchange.item?]
  cases hitem : errand.request.item? errand.now s.taken with
  | none => simp
  | some brought =>
      obtain ⟨id, item⟩ := brought
      simp only [Option.map_some, Option.getD_some, Item.file, Option.any_some]
      rw [filedByName_put_iff, filedByName_iff s.store id, and_assoc]
      refine and_congr_right fun _ => ?_
      cases hget : Fields.get? s.store id with
      | some p =>
          -- a project that is there keeps its name, and is not founded again
          have hkept : ∀ q, item.whole? = some q →
              (s.answer errand.now errand.request).2.isOk = false := by
            intro q hwhole
            rw [isOk_answer_of_whole hitem hwhole, hget]
            rfl
          rw [Item.projectId_settle_some]
          cases hwhole : item.whole? with
          | none => simp
          | some q => simp [hkept q hwhole]
      | none =>
          rw [Item.projectId_settle_none]
          cases hwhole : item.whole? with
          | none => simp
          | some q => simp [isOk_answer_of_whole hitem hwhole, hget]

variable (s) in
/-- So are they after a run. -/
theorem filedByName_run_iff [Halves] (errands : List Errand) :
    FiledByName (run errands s).1.store ↔
      FiledByName s.store ∧ ∀ x ∈ (run errands s).2, x.misfiles = false := by
  have hstep : ∀ (now : Intake) (t : List Exchange) (errand : Errand),
      (FiledByName now.store ↔ FiledByName s.store ∧ ∀ x ∈ t, x.misfiles = false) →
      (FiledByName (now.exchange errand).1.store ↔
        FiledByName s.store ∧ ∀ x ∈ t ++ [(now.exchange errand).2], x.misfiles = false) := by
    intro now t errand hbefore
    rw [Intake.exchange, filedByName_answer_iff, hbefore, List.forall_mem_append,
      List.forall_mem_singleton, and_assoc]
  have hstart : FiledByName s.store ↔
      FiledByName s.store ∧ ∀ x ∈ ([] : List Exchange), x.misfiles = false := by
    simp
  exact keeps_run (fun now t => FiledByName now.store ↔
    FiledByName s.store ∧ ∀ x ∈ t, x.misfiles = false) hstep errands hstart

/-- Each project has the name that the items brought to it give it. -/
def Named [Halves] (store : Store) (t : List Exchange) : Prop :=
  ∀ id : String, (Fields.get? store id).map (·.projectId) =
    if (itemsFor t id).isEmpty then none else some (nameFrom id (itemsFor t id))

theorem Named.answer [Halves] {t : List Exchange} (h : Named s.store t) :
    Named (s.answer errand.now errand.request).1.store
      (t ++ [⟨errand, s.taken, (s.answer errand.now errand.request).2⟩]) := by
  intro id
  have hbefore := h id
  rcases get?_answer_cases s t errand id with ⟨hget, hitems⟩ | ⟨item, hget, hitems⟩
  · rw [hget, hitems, hbefore]
  · rw [hget, hitems, Option.map_some]
    cases hthere : itemsFor t id with
    | nil =>
        have hnone : Fields.get? s.store id = none := by simpa [hthere] using hbefore
        rw [hnone, Item.projectId_settle_none]
        rfl
    | cons first later =>
        rw [hthere] at hbefore
        obtain ⟨p, hp, hname⟩ := Option.map_eq_some_iff.mp hbefore
        rw [hp, Item.projectId_settle_some, hname]
        rfl

end Names

/-- After every run a project has the name that its founding data give it, and one that an addition
founded has the name that it is filed under.  So all projects are filed under their own names just
if no accepted request of the run founded one with data that name another. -/
theorem filed_by_name_iff_none_misfiled [Halves] (errands : List Errand) :
    let done := run errands {}
    (∀ id, (Fields.get? done.1.store id).map (·.projectId) =
      if (itemsFor done.2 id).isEmpty then none
      else some (((founder? (itemsFor done.2 id)).map (·.projectId)).getD id)) ∧
    ((∀ id p, Fields.get? done.1.store id = some p → p.projectId = id) ↔
      ∀ x ∈ done.2, x.misfiles = false) := by
  intro done
  have hnone : Named ({} : Intake).store [] := fun id => rfl
  have hempty : FiledByName ({} : Intake).store := by
    intro id p hp
    cases hp
  have hnamed : Named done.1.store done.2 :=
    keeps_run (fun s t => Named s.store t) (fun _ _ errand hnamed => hnamed.answer errand) errands
      hnone
  refine ⟨hnamed, ?_⟩
  exact (filedByName_run_iff {} errands).trans (and_iff_right hempty)

/-- An errand that brings the data of a whole project. -/
def founding (id name : String) : Errand :=
  ⟨⟨0, none⟩, .create id [("project_id", .text name)]⟩

section

open scoped Halves.Plain

/-- A project that is founded under its own name, and founded again under another, keeps its name:
the second request is refused. -/
theorem own_name_kept_when_founded_again :
    let done := run [founding "atlas" "atlas", founding "atlas" "globe"] {}
    (∀ x ∈ done.2, x.misfiles = false) ∧
      ∀ p, Fields.get? done.1.store "atlas" = some p → p.projectId = "atlas" := by
  intro done
  have hall : done.2.all (!·.misfiles) = true := by decide +kernel
  have hnone : ∀ x ∈ done.2, x.misfiles = false := by
    intro x hx
    simpa using List.all_eq_true.mp hall x hx
  obtain ⟨-, hiff⟩ := filed_by_name_iff_none_misfiled
    [founding "atlas" "atlas", founding "atlas" "globe"]
  exact ⟨hnone, hiff.mpr hnone "atlas"⟩

/-- Data that name another project are filed as they are. -/
theorem other_name_filed :
    (Fields.get? (run [founding "atlas" "globe"] {}).1.store "atlas").map (·.projectId) =
      some "globe" := by
  decide +kernel

end

/-! ## Searching -/

/-- Everything in which a query stands, in some sense, is found in every project. -/
def FindsAll (query : String) (stands : String → Prop) : Prop :=
  ∀ (store : Store) (id : String) (p : Project), Fields.get? store id = some p →
    (∀ s ∈ p.snippets, (stands s.content ∨ ∃ path, s.filePath = some path ∧ stands path) →
      s ∈ (search store id query).snippets) ∧
    (∀ c ∈ p.comments, stands c.content → c ∈ (search store id query).comments) ∧
    ∀ q ∈ p.prompts, stands q.content → q ∈ (search store id query).prompts

/-- A query that an empty text holds is held by every text. -/
theorem holds_of_holds_empty {query : String} (h : holds query "" = true) (text : String) :
    holds query text = true := by
  rw [holds, Text.occursIn_iff_isInfix] at h ⊢
  have hnone : Text.lowerChars query.toList = [] := List.infix_nil.mp h
  rw [hnone]
  exact List.nil_infix

/-- All items are searched alike: what is found hangs on the texts that hold the query. -/
theorem findsAll_iff (query : String) (stands : String → Prop) :
    FindsAll query stands ↔ ∀ text, stands text → holds query text = true := by
  constructor
  · intro hall text hstands
    -- a project with one comment
    let comment : Comment := ⟨"", text, "", .null, .null, none⟩
    let p : Project := ⟨"", [], [comment], [], .null, .null, .null⟩
    obtain ⟨-, hcomments, -⟩ := hall [("", p)] "" p rfl
    have hfound := hcomments comment List.mem_cons_self hstands
    exact (List.mem_filter.mp hfound).2
  · intro hholds store id p hp
    simp only [search, hp, List.mem_filter]
    refine ⟨?_, ?_, ?_⟩
    · intro s hs hstands
      refine ⟨hs, ?_⟩
      rw [Snippet.matches, Bool.or_eq_true]
      rcases hstands with hcontent | ⟨path, hpath, hstands⟩
      · exact .inl (hholds _ hcontent)
      · have hfound := hholds path hstands
        by_cases hempty : path = ""
        · subst hempty
          exact .inl (holds_of_holds_empty hfound _)
        · right
          simp [hpath, hfound, hempty]
    · intro c hc hstands
      exact ⟨hc, hholds _ hstands⟩
    · intro q hq hstands
      exact ⟨hq, hholds _ hstands⟩

/-- A search answers with items of the project in their order, and it finds every item in which the
query stands somewhere without a capital sigma being cut.  So it finds every item in which the
query stands at all just if none of its sigmas can be cut. -/
theorem search_complete_iff_no_sigma_cut [Halves] (query : String) :
    (∀ (s : Intake) (now : Stamp) (id : String), s.answer now (.search id query) =
      (s, .ok (search s.store id query).toValue)) ∧
    (∀ (store : Store) (id : String) (p : Project), Fields.get? store id = some p →
      (search store id query).snippets.Sublist p.snippets ∧
      (search store id query).comments.Sublist p.comments ∧
      (search store id query).prompts.Sublist p.prompts) ∧
    FindsAll query (fun text => Text.HoldsUncut query.toList text.toList) ∧
    (FindsAll query (fun text => query.toList <:+: text.toList) ↔
      Text.keepsSigmas query.toList = true) := by
  refine ⟨fun s now id => rfl, ?_, ?_, ?_⟩
  · intro store id p hp
    simp only [search, hp]
    exact ⟨List.filter_sublist, List.filter_sublist, List.filter_sublist⟩
  · rw [findsAll_iff]
    intro text huncut
    exact Text.occursIn_lower huncut
  · rw [findsAll_iff, ← Text.occursIn_lower_iff_keepsSigmas]
    constructor
    · intro hall text hinfix
      have hfound := hall (String.ofList text) (by rwa [String.toList_ofList])
      rwa [holds, String.toList_ofList] at hfound
    · intro hall text hinfix
      exact hall text.toList hinfix

/-- A project with one comment, in Greek. -/
def greekNotes : Store :=
  [("atlas", { Project.empty "atlas" ⟨0, none⟩ with
    comments := [⟨"c", "ΤΑ ΜΕΣΑ", "ann", .null, .null, none⟩] })]

section

open scoped Halves.Plain

/-- The whole word is found, though it holds a sigma. -/
theorem whole_word_found :
    Text.HoldsUncut "ΜΕΣΑ".toList "ΤΑ ΜΕΣΑ".toList ∧
    ⟨"c", "ΤΑ ΜΕΣΑ", "ann", .null, .null, none⟩ ∈ (search greekNotes "atlas" "ΜΕΣΑ").comments := by
  have huncut : Text.HoldsUncut "ΜΕΣΑ".toList "ΤΑ ΜΕΣΑ".toList :=
    ⟨"ΤΑ ".toList, [], by decide, by decide +kernel⟩
  obtain ⟨-, -, hall, -⟩ := search_complete_iff_no_sigma_cut "ΜΕΣΑ"
  obtain ⟨-, hcomments, -⟩ := hall greekNotes "atlas" _ rfl
  exact ⟨huncut, hcomments _ List.mem_cons_self huncut⟩

end

/-- The beginning of the word is not: its sigma ends a word, and that of the comment does not. -/
theorem beginning_of_word_missed :
    "ΜΕΣ".toList <:+: "ΤΑ ΜΕΣΑ".toList ∧
    (Fields.get? greekNotes "atlas").map (fun p => p.comments.map (·.content)) = some ["ΤΑ ΜΕΣΑ"] ∧
    (search greekNotes "atlas" "ΜΕΣ").comments.map (·.content) = [] :=
  ⟨⟨"ΤΑ ".toList, "Α".toList, by decide⟩, by decide, by decide +kernel⟩

end Scriptorium.Inputs
