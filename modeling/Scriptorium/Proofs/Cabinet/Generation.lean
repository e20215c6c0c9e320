import Scriptorium.Api
import Scriptorium.Proofs.Outcome
import Scriptorium.Proofs.Text.Numeral
import Scriptorium.Proofs.Web.Arguments
import Scriptorium.Proofs.Web.Run
import Scriptorium.Proofs.Web.Sending
set_option autoImplicit false

/-!
# Documents that the assistant writes

An order is put into a brief, and the assistant is asked.  A brief quotes the content of snippets,
but a snippet of an order is checked for other fields and has none of that name: an order with
snippets fails before anything is asked.  Without snippets, the first draft becomes a document if it
can be waited for and is there.  The document is filed before its announcement is sent, and stays
where it is if the announcement cannot be sent.
-/

namespace Scriptorium

/-- The first draft of a reply can be waited for and is a text. -/
def Reply.Gives (reply : Reply) (text : String) : Prop :=
  ∃ rest, reply = .drafts (some text :: rest) true

theorem Reply.Gives.unique {reply : Reply} {text other : String} (h : reply.Gives text)
    (h' : reply.Gives other) : other = text := by
  obtain ⟨rest, rfl⟩ := h
  obtain ⟨rest', hsame⟩ := h'
  cases hsame
  rfl

namespace Cabinet

open Schema Web

namespace Order

/-! ## Orders that have been checked -/

/-- The fields of an order. -/
def fields (o : Order) : Fields :=
  [("project_id", .text o.projectId), ("project_description", .text o.description),
    ("code_snippets", .list (o.snippets.map .record)), ("document_type", .text o.docType),
    ("additional_context", o.context)]

/-- The fields of an order say all about it. -/
theorem fields_injective : Function.Injective fields := by
  intro o o' h
  simp only [fields, List.cons.injEq, Prod.mk.injEq, Value.text.injEq, Value.list.injEq, true_and,
    and_true, List.map_inj_right fun _ _ => Value.record.inj] at h
  obtain ⟨hproject, hdescription, hsnippets, hkind, hcontext⟩ := h
  cases o
  cases o'
  simp_all

/-- What is known of an order that has been checked. -/
structure Checked (o : Order) : Prop where
  kind : o.docType ∈ Forms.writtenKinds
  snippets : ∀ snippet ∈ o.snippets, Fields.get? snippet "content" = none

theorem eq_some_of_getD {found : Option Value} {v : Value} (h : found.getD .null = v)
    (hv : v ≠ .null) : found = some v := by
  cases found with
  | none => exact absurd h.symm hv
  | some w => exact congrArg some h

/-- Checked fields are those of their order. -/
theorem of_fits [Halves] {given : Fields}
    (h : Fits Forms.form (.form .generationRequest) (.record given)) :
    given = (ofFields given).fields ∧ (ofFields given).Checked := by
  have hnodup := Forms.ownNames.nodup .generationRequest (by decide)
  obtain ⟨hnames, htakes⟩ := (fits_record_iff hnodup given).mp h
  have hgiven := eq_map_of_names hnames hnodup
  simp only [Forms.form, Forms.fields, List.map_cons, List.map_nil] at hgiven
  simp only [Forms.form, Forms.fields, List.forall_mem_cons] at htakes
  obtain ⟨hproject, hdescription, hsnippets, hkind, -⟩ := htakes
  obtain ⟨projectId, hprojectId⟩ := (hproject.fits rfl).eq_text
  obtain ⟨description, hdescription⟩ := (hdescription.fits rfl).eq_text
  obtain ⟨items, hitems, hfits⟩ := (hsnippets.fits rfl).eq_list
  obtain ⟨docType, hpermitted, hdocType⟩ := (hkind.fits rfl).eq_constant
  have hproject : Fields.get? given "project_id" = some (.text projectId) :=
    eq_some_of_getD hprojectId (by simp)
  have hdescription : Fields.get? given "project_description" = some (.text description) :=
    eq_some_of_getD hdescription (by simp)
  have hsnippets : Fields.get? given "code_snippets" = some (.list items) :=
    eq_some_of_getD hitems (by simp)
  have hkind : Fields.get? given "document_type" = some (.text docType) :=
    eq_some_of_getD hdocType (by simp)
  have horder : ofFields given = ⟨projectId, description, items.map fun v => (v.record?).getD [],
      docType, (Fields.get? given "additional_context").getD .null⟩ := by
    simp only [ofFields, hproject, hdescription, hsnippets, hkind, Option.bind_some, Value.text?,
      Value.list?, Option.getD_some]
  have hrecords : (items.map fun v => (v.record?).getD []).map Value.record = items := by
    rw [List.map_map]
    refine (List.map_congr_left fun v hv => ?_).trans (List.map_id items)
    obtain ⟨inner, rfl, -⟩ := (hfits v hv).eq_record
    rfl
  rw [horder]
  refine ⟨?_, hpermitted, ?_⟩
  · rw [fields, hrecords]
    refine hgiven.trans ?_
    simp only [Slot.required, Slot.optional, hproject, hdescription, hsnippets, hkind,
      Option.getD_some]
  · intro snippet hsnippet
    obtain ⟨v, hv, rfl⟩ := List.mem_map.mp hsnippet
    obtain ⟨inner, rfl, hinner⟩ := (hfits v hv).eq_record
    have habsent : "content" ∉ ["language", "code", "file_path"] := by decide
    exact (Fields.get?_eq_none_iff inner "content").mpr (hinner ▸ habsent)

/-! ## Writing -/

/-- The draft of an order with a text: it is named after its kind and its project. -/
def drafted (o : Order) (text : String) : Draft :=
  ⟨Text.upper o.docType ++ " - " ++ o.projectId, text, o.docType, o.projectId, generatedBy⟩

/-- Nothing can be said about a snippet without content. -/
theorem snippetPart_error [Halves] {snippet : Fields} (h : Fields.get? snippet "content" = none)
    (index : Nat) : ∃ f, Writing.snippetPart index (.record snippet) = .error f := by
  have hentry : Value.entry (.record snippet) "content" =
      .error (.missingKey (.text "content")) := by
    simp only [Value.entry, h]
  cases hpart : Writing.snippetPart index (.record snippet) with
  | error f => exact ⟨f, rfl⟩
  | ok part =>
      simp only [Writing.snippetPart, Outcome.bind_eq_ok_iff, hentry] at hpart
      obtain ⟨-, -, -, -, -, -, content, hcontent, -⟩ := hpart
      cases hcontent

/-- What comes of an order: without snippets the assistant is asked once, and the first draft is
taken if there is one; with snippets the assistant is not asked, and nothing is written. -/
theorem Checked.write_cases [Halves] {o : Order} (h : o.Checked) (reply : Reply) :
    (o.snippets = [] ∧ ∃ asked text, reply.Gives text ∧
      o.write reply = ([asked], .ok (o.drafted text))) ∨
    (o.snippets = [] ∧ (∀ text, ¬reply.Gives text) ∧ ∃ asked f,
      o.write reply = ([asked], .error f)) ∨
    (o.snippets ≠ [] ∧ ∃ f, o.write reply = ([], .error f)) := by
  rcases hsnippets : o.snippets with - | ⟨snippet, rest⟩
  · obtain ⟨brief, hbrief⟩ : ∃ brief, Writing.brief (.text o.description)
        (.list (o.snippets.map .record)) o.context = .ok brief := by
      rw [hsnippets]
      exact ⟨_, rfl⟩
    by_cases hgives : ∃ text, reply.Gives text
    · obtain ⟨text, rest, rfl⟩ := hgives
      refine .inl ⟨rfl, Writing.request o.docType brief, text, ⟨rest, rfl⟩, ?_⟩
      rw [write, Writing.write, hbrief]
      rfl
    · refine .inr (.inl ⟨rfl, not_exists.mp hgives, Writing.request o.docType brief, ?_⟩)
      rw [write, Writing.write, hbrief]
      cases reply with
      | failure text => exact ⟨_, rfl⟩
      | drafts choices awaitable =>
          cases awaitable with
          | false => exact ⟨_, rfl⟩
          | true =>
              rcases choices with - | ⟨- | text, rest⟩
              · exact ⟨_, rfl⟩
              · exact ⟨_, rfl⟩
              · exact absurd ⟨text, rest, rfl⟩ hgives
  · refine .inr (.inr ⟨List.cons_ne_nil _ _, ?_⟩)
    obtain ⟨f, hpart⟩ := snippetPart_error (h.snippets snippet (by rw [hsnippets]; simp)) 1
    have hbrief : Writing.brief (.text o.description) (.list (o.snippets.map .record)) o.context =
        .error f := by
      rw [hsnippets]
      simp only [Writing.brief, Value.items, Value.items?, List.map_cons, Writing.snippetParts,
        hpart, bind, Except.bind]
    exact ⟨_, by rw [write, Writing.write, hbrief]; rfl⟩

/-- The assistant is asked exactly if there are no snippets. -/
theorem Checked.asked_eq_nil_iff [Halves] {o : Order} (h : o.Checked) (reply : Reply) :
    (o.write reply).1 = [] ↔ o.snippets ≠ [] := by
  rcases h.write_cases reply with
    ⟨hnone, asked, text, -, hwrite⟩ | ⟨hnone, -, asked, f, hwrite⟩ | ⟨hsome, f, hwrite⟩
  · simp [hwrite, hnone]
  · simp [hwrite, hnone]
  · simp [hwrite, hsome]

/-- The document of an order with a text. -/
def document (o : Order) (text id : String) (now : Stamp) : Document :=
  { o.drafted text with id := id, createdAt := now, updatedAt := now }

end Order

/-! ## Announcements -/

/-- A document can be announced exactly if its parts can be sent. -/
theorem unsendable?_announcement_iff [Halves] (d : Document) :
    Json.unsendable? (announcement d) = none ↔
      ∀ v ∈ [.text d.title, .text d.content, .text d.docType, .text d.projectId, d.metadata,
        .text d.id], Json.unsendable? v = none := by
  have hannounced : ["message", "document"].all Json.isSendableName = true := by decide +kernel
  have hnames : ["title", "content", "doc_type", "project_id", "metadata", "id", "created_at",
      "updated_at"].all Json.isSendableName = true := by
    decide +kernel
  have hmessage : Json.unsendable? (.text "Document generated successfully") = none :=
    Json.unsendable?_of_isAscii (by decide +kernel)
  have hdocument : Json.unsendable? d.toValue = none ↔ _ := Json.unsendable?_record_of_names hnames
  refine (Json.unsendable?_record_of_names ?_).trans ?_
  · exact hannounced
  · simp only [List.forall_mem_cons, hmessage, hdocument, Json.unsendable?_stamp]
    simp

/-- The document of an order can be announced exactly if neither its project nor its text has half
of a pair. -/
theorem Order.Checked.unsendable?_announcement_iff [Halves] {o : Order} (h : o.Checked)
    (text : String) (i : Ident) (now : Stamp) :
    Json.unsendable? (announcement (o.document text i.text now)) = none ↔
      (∀ c ∈ o.projectId.toList, Text.Half.isHalf c = false) ∧
        ∀ c ∈ text.toList, Text.Half.isHalf c = false := by
  have hmetadata : Json.unsendable? generatedBy = none := by
    refine (Json.unsendable?_record_of_names (by decide +kernel)).mpr ?_
    rw [List.forall_mem_cons, List.forall_mem_singleton]
    exact ⟨Json.unsendable?_of_isAscii (by decide +kernel),
      Json.unsendable?_of_isAscii (by decide +kernel)⟩
  have hid : ∀ c ∈ i.text.toList, Text.Half.isHalf c = false := fun c hc =>
    Text.Half.isHalf_ascii (Text.isVisible_of_mem_ident hc).2
  have hkinds : ∀ kind ∈ Forms.writtenKinds, Text.IsAscii kind.toList ∧
      Text.IsAscii (Text.upper kind ++ " - ").toList := by
    decide +kernel
  have hkind : (∀ c ∈ o.docType.toList, Text.Half.isHalf c = false) ∧
      ∀ c ∈ (Text.upper o.docType ++ " - ").toList, Text.Half.isHalf c = false :=
    (hkinds o.docType h.kind).imp (·.isHalf_eq_false) (·.isHalf_eq_false)
  have htitle : (∀ c ∈ (o.document text i.text now).title.toList, Text.Half.isHalf c = false) ↔
      ∀ c ∈ o.projectId.toList, Text.Half.isHalf c = false := by
    rw [Order.document, Order.drafted, String.toList_append, List.forall_mem_append,
      and_iff_right hkind.2]
  rw [Cabinet.unsendable?_announcement_iff]
  simp only [List.forall_mem_cons, Json.unsendable?_text_eq_none_iff, htitle]
  constructor
  · rintro ⟨hproject, htext, -⟩
    exact ⟨hproject, htext⟩
  · rintro ⟨hproject, htext⟩
    exact ⟨hproject, htext, hkind.1, hproject, hmetadata, hid, List.forall_mem_nil _⟩

/-! ## Requests -/

/-- The identifier of the next document. -/
def nextId (world : World) : String := Api.Cabinet.supply (world.taken + 1)

section Request

variable {arrival : Arrival} {captured : List (String × String)} {world : World} {call : Call}

variable (world) in
/-- What a request does whose order is written: the document is filed, and then announced. -/
theorem run_generate_ok [Halves] {asked : List Scriptorium.Request} {text : String}
    (hwrite : (Order.ofFields (call.record "request")).write call.around.reply =
      (asked, .ok ((Order.ofFields (call.record "request")).drafted text))) :
    let d := (Order.ofFields (call.record "request")).document text (nextId world) call.around.now
    (Api.Cabinet.generate.run call world).1.cabinet = Fields.put world.cabinet (nextId world) d ∧
      (Api.Cabinet.generate.run call world).2 = .ok (.value (announcement d)) := by
  simp only [Api.Cabinet.generate, Api.Cabinet.asking, Registry.answer, generate, hwrite]
  exact ⟨rfl, rfl⟩

variable (world) in
/-- What a request does whose order is not written: nothing is filed, and the request is refused. -/
theorem run_generate_error [Halves] {asked : List Scriptorium.Request} {f : Fault}
    (hwrite : (Order.ofFields (call.record "request")).write call.around.reply =
      (asked, .error f)) :
    (Api.Cabinet.generate.run call world).1.cabinet = world.cabinet ∧
      ∃ detail, (Api.Cabinet.generate.run call world).2 = .error (.refused 500 detail) := by
  simp only [Api.Cabinet.generate, Api.Cabinet.asking, Registry.answer, generate, hwrite]
  exact ⟨rfl, _, rfl⟩

/-- The status of a refused request, also if the refusal cannot be sent. -/
theorem status_sent_refusal [Halves] (manner : Manner) (detail : Value) :
    (Answer.sent (.ofFault manner (.refused 500 detail))).status = 500 := by
  rcases Answer.status_sent (.ofFault manner (.refused 500 detail)) with hsent | ⟨-, hstatus⟩
  · rw [hsent]
    exact Answer.status_refusal manner 500 detail
  · exact hstatus

theorem status_sent_announcement [Halves] (d : Document) :
    (Answer.sent { status := 201, body := some (announcement d) }).status =
      if Json.unsendable? (announcement d) = none then 201 else 500 := by
  unfold Answer.sent
  cases hsendable : Json.unsendable? (announcement d) <;> simp [hsendable, Answer.broken]

/-- What a request for a document does: the document is filed and announced, if there are no
snippets and the reply gives a text; otherwise nothing changes and the request is refused. -/
theorem generate_cases [Halves]
    (hchoice : Api.shelf.choice arrival = .found (.endpoint "POST" Api.Cabinet.generate) captured)
    (hcall : Api.Cabinet.generate.call? captured arrival.around arrival.request world = some call) :
    let order := Order.ofFields (call.record "request")
    let document (text : String) := order.document text (nextId world) arrival.around.now
    (order.snippets = [] ∧ ∃ text, arrival.around.reply.Gives text ∧
      (Api.shelf.after arrival world).cabinet =
        Fields.put world.cabinet (nextId world) (document text) ∧
      (Api.shelf.answer arrival world).status =
        if Json.unsendable? (announcement (document text)) = none then 201 else 500) ∨
    ((order.snippets = [] → ∀ text, ¬arrival.around.reply.Gives text) ∧
      (Api.shelf.after arrival world).cabinet = world.cabinet ∧
      (Api.shelf.answer arrival world).status = 500) := by
  intro order document
  have haround := Endpoint.around_of_call hcall
  have hfits := Endpoint.fits_body hcall rfl (by simp [Api.Cabinet.generate])
  have hchecked : order.Checked := (Order.of_fits hfits).2
  rw [Application.after_of_choice hchoice, hcall, Option.elim_some,
    Application.answer_of_choice hchoice, Endpoint.answer_of_call hcall]
  have hfails : ∀ asked f, order.write arrival.around.reply = (asked, .error f) →
      (Api.Cabinet.generate.run call world).1.cabinet = world.cabinet ∧
        ∃ detail, (Api.Cabinet.generate.run call world).2 = .error (.refused 500 detail) := by
    intro asked f hwrite
    exact run_generate_error world (haround.symm ▸ hwrite)
  rcases hchecked.write_cases arrival.around.reply with
    ⟨hnone, asked, text, hgives, hwrite⟩ | ⟨hnone, hgives, asked, f, hwrite⟩ | ⟨hsome, f, hwrite⟩
  · obtain ⟨hcabinet, hresult⟩ := run_generate_ok world (haround.symm ▸ hwrite)
    refine .inl ⟨hnone, text, hgives, ?_, ?_⟩
    · rw [hcabinet, haround]
    · rw [hresult, haround]
      -- none of the names in an announcement is kept for the store, so all of it is exposed
      exact status_sent_announcement (document text)
  · obtain ⟨hcabinet, detail, hresult⟩ := hfails [asked] f hwrite
    refine .inr ⟨fun _ => hgives, hcabinet, ?_⟩
    rw [hresult]
    exact status_sent_refusal _ detail
  · obtain ⟨hcabinet, detail, hresult⟩ := hfails [] f hwrite
    refine .inr ⟨fun hnone => absurd hnone hsome, hcabinet, ?_⟩
    rw [hresult]
    exact status_sent_refusal _ detail

/-- A request for a document is answered 201 if and only if it has no snippets, the assistant's
reply can be waited for, its first draft is there, and neither the project nor the draft has half of
a pair; otherwise it is answered 500.  Whenever there are no snippets and a first draft, also if its
announcement cannot be sent, one document is filed behind all others under the next identifier,
which has to be a new one: of the kind and the project that were asked for, named after both, and
with the draft as its content.  In all other cases the cabinet stays as it is.  The assistant is
asked if and only if there are no snippets. -/
theorem generation_filed_iff_drafted [Halves]
    (hchoice : Api.shelf.choice arrival = .found (.endpoint "POST" Api.Cabinet.generate) captured)
    (hcall : Api.Cabinet.generate.call? captured arrival.around arrival.request world = some call) :
    ∃ order : Order, call.record "request" = order.fields ∧
      let reply := arrival.around.reply
      let now := arrival.around.now
      let status := (Api.shelf.answer arrival world).status
      let cabinet := (Api.shelf.after arrival world).cabinet
      (status = 201 ↔ order.snippets = [] ∧ ∃ text, reply.Gives text ∧
        (∀ c ∈ order.projectId.toList, Text.Half.isHalf c = false) ∧
        ∀ c ∈ text.toList, Text.Half.isHalf c = false) ∧
      (status ≠ 201 → status = 500) ∧
      (∀ text, order.snippets = [] → reply.Gives text → nextId world ∉ Fields.names world.cabinet →
        cabinet = world.cabinet ++ [(nextId world,
          { title := Text.upper order.docType ++ " - " ++ order.projectId
            content := text
            docType := order.docType
            projectId := order.projectId
            metadata := generatedBy
            id := nextId world
            createdAt := now
            updatedAt := now })]) ∧
      ((order.snippets = [] → ∀ text, ¬reply.Gives text) → cabinet = world.cabinet) ∧
      ((world.cabinet.generate (nextId world) order reply now).1 = [] ↔ order.snippets ≠ []) := by
  have hfits := Endpoint.fits_body hcall rfl (by simp [Api.Cabinet.generate])
  obtain ⟨hfields, hchecked⟩ := Order.of_fits hfits
  refine ⟨_, hfields, ?_⟩
  intro reply now status cabinet
  have hasked := hchecked.asked_eq_nil_iff reply
  rcases generate_cases hchoice hcall with
    ⟨hnone, text, hgives, hcabinet, hstatus⟩ | ⟨hfails, hcabinet, hstatus⟩
  · have hsendable :=
      hchecked.unsendable?_announcement_iff text (Ident.ofSupply (world.taken + 1)) now
    refine ⟨?_, ?_, ?_, ?_, hasked⟩
    · constructor
      · intro hcreated
        refine ⟨hnone, text, hgives, hsendable.mp ?_⟩
        by_contra hunsendable
        exact absurd (hcreated.symm.trans (hstatus.trans (if_neg hunsendable))) (by decide)
      · rintro ⟨-, other, hother, hwhole⟩
        obtain rfl := hgives.unique hother
        exact hstatus.trans (if_pos (hsendable.mpr hwhole))
    · intro hfailed
      refine hstatus.trans (if_neg fun hsent => hfailed ?_)
      exact hstatus.trans (if_pos hsent)
    · intro other _ hother hnew
      obtain rfl := hgives.unique hother
      exact hcabinet.trans (Fields.put_of_not_mem hnew _)
    · intro hnever
      exact absurd hgives (hnever hnone text)
  · refine ⟨?_, fun _ => hstatus, ?_, fun _ => hcabinet, hasked⟩
    · constructor
      · intro hcreated
        exact absurd (hcreated.symm.trans hstatus) (by decide)
      · rintro ⟨hnone, text, hgives, -⟩
        exact absurd hgives (hfails hnone text)
    · intro text hnone hgives _
      exact absurd hgives (hfails hnone text)

end Request

/-! ### A document for a project -/

/-- The request for requirements of a project.  The assistant replies with one draft. -/
def ordering (projectId : String) : Arrival where
  around :=
    { now := ⟨0, none⟩, signer := { secret := "s" }, reply := .drafts [some "Text"] true
      marks := [], similarities := [], documentation := { now := ⟨0, none⟩ } }
  request :=
    { method := "POST", path := "/api/documents/generate"
      content := .json (.record [("project_id", .text projectId),
        ("project_description", .text "desc"), ("code_snippets", .list []),
        ("document_type", .text "srs")]) }

/-- A world without templates and documents. -/
def bare : World := { library := ⟨[]⟩, health := ⟨none, "test", 0⟩ }

theorem choice_ordering [Halves] (projectId : String) : Api.shelf.choice (ordering projectId) =
    .found (.endpoint "POST" Api.Cabinet.generate) [] := by
  have hpath : Pattern.stepsOf
      (Web.Request.realPath { method := "POST", path := "/api/documents/generate" }) =
      ["", "api", "documents", "generate"] := by
    decide +kernel
  have hsteps : Pattern.stepsOf (ordering projectId).request.realPath =
      ["", "api", "documents", "generate"] := hpath
  have hmethod : (ordering projectId).request.method = "POST" := rfl
  unfold Application.choice
  rw [hsteps, hmethod]
  exact Application.choose_of_getElem? (n := 9) rfl rfl rfl rfl

set_option maxRecDepth 10000 in
theorem call?_ordering [Halves] (projectId : String) :
    ∃ call, Api.Cabinet.generate.call? [] (ordering projectId).around (ordering projectId).request
        bare = some call ∧
      call.record "request" = Order.fields ⟨projectId, "desc", [], "srs", .null⟩ :=
  ⟨_, by with_unfolding_all rfl, by with_unfolding_all rfl⟩

section

open scoped Halves.Plain

/-- The requirements of a project are written, filed and announced. -/
theorem requirements_filed :
    nextId bare ∉ Fields.names bare.cabinet ∧
      (Api.shelf.answer (ordering "atlas") bare).status = 201 ∧
      (Api.shelf.after (ordering "atlas") bare).cabinet.map (fun entry => entry.2.title) =
        [Text.upper "srs" ++ " - " ++ "atlas"] := by
  have hnew : nextId bare ∉ Fields.names bare.cabinet := List.not_mem_nil
  have hwhole : ["atlas", "Text"].all (fun s => s.toList.all fun c => !Text.Half.isHalf c) =
      true := by
    decide +kernel
  simp only [List.all_cons, List.all_nil, Bool.and_true, Bool.and_eq_true, List.all_eq_true,
    Bool.not_eq_true'] at hwhole
  obtain ⟨call, hcall, hrecord⟩ := call?_ordering "atlas"
  obtain ⟨order, hfields, hstatus, -, hcabinet, -⟩ :=
    generation_filed_iff_drafted (choice_ordering "atlas") hcall
  obtain rfl := Order.fields_injective (hfields.symm.trans hrecord)
  refine ⟨hnew, ?_, ?_⟩
  · exact hstatus.mpr ⟨rfl, "Text", ⟨[], rfl⟩, hwhole⟩
  · rw [hcabinet "Text" rfl ⟨[], rfl⟩ hnew]
    rfl

end

/-! ### A project that is half of a pair -/

section

open Text.Half (alone)
open scoped Halves.Kept

/-- There are no snippets, and the reply gives a text; but the document cannot be announced.  The
request is answered 500, and the document stays in the cabinet. -/
theorem half_project_filed_unannounced :
    (∃ call, Api.Cabinet.generate.call? [] (ordering alone).around (ordering alone).request bare =
        some call ∧
      call.record "request" = Order.fields ⟨alone, "desc", [], "srs", .null⟩) ∧
    (ordering alone).around.reply = .drafts [some "Text"] true ∧
    (Api.shelf.answer (ordering alone) bare).status = 500 ∧
    (Api.shelf.after (ordering alone) bare).cabinet.map (fun entry => entry.2.content) =
      ["Text"] := by
  obtain ⟨call, hcall, hrecord⟩ := call?_ordering alone
  have horder : Order.ofFields (call.record "request") = ⟨alone, "desc", [], "srs", .null⟩ := by
    rw [hrecord]
    rfl
  have hchecked : (Order.ofFields (call.record "request")).Checked :=
    (Order.of_fits (Endpoint.fits_body hcall rfl (by simp [Api.Cabinet.generate]))).2
  have hmem : Text.Half.toChar 0xD83D ∈ alone.toList := by simp [alone]
  have hhalf : Text.Half.isHalf (Text.Half.toChar 0xD83D) = true := by decide
  refine ⟨⟨call, hcall, hrecord⟩, rfl, ?_⟩
  rcases generate_cases (choice_ordering alone) hcall with
    ⟨-, text, ⟨rest, hreply⟩, hcabinet, hstatus⟩ | ⟨hfails, -⟩
  · obtain ⟨rfl, -⟩ : "Text" = text ∧ [] = rest := by simpa [ordering] using hreply
    refine ⟨hstatus.trans (if_neg fun hsendable => ?_), ?_⟩
    · have hwhole := ((hchecked.unsendable?_announcement_iff "Text" _ _).mp hsendable).1
      rw [horder] at hwhole
      cases hhalf.symm.trans (hwhole _ hmem)
    · rw [hcabinet]
      rfl
  · exact absurd ⟨[], rfl⟩ (hfails (by rw [horder]) "Text")

end

end Cabinet

end Scriptorium
