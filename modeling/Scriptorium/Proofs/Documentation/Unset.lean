import Scriptorium.Api
import Scriptorium.Proofs.History.Transcript
import Scriptorium.Proofs.Web.Run
set_option autoImplicit false

/-!
# Reports without standards

A service is made without standards for documentation, and nothing that is asked about versions or
comments ever sets them.  Reports read the standards halfway: after the file has been read, its
structure analysed and its documentation written, and before anything of the result is put together.
All steps up to there succeed on every file that can be read, whatever the assistant answers, so
that every report ends at the same place unless the file stops it earlier; `obstacle` names the
place.
-/

namespace Scriptorium.Documentation

open Source (Format)

/-- The service after requests about versions and comments. -/
def Service.after [Halves] (supply : Nat → String) (requests : List History.Request)
    (service : Service) : Service :=
  { service with books := (History.run supply requests service.books).1 }

/-! ## Where reports end -/

/-- What stops the report on a file first: a suffix that is not supported, a file that cannot be
opened, bytes that are no text, or else the standards that are not set. -/
def obstacle [Halves] (path : String) (file : Option (List UInt8)) : Fault :=
  if (Format.ofSuffix? (Source.normalSuffix path)).isNone then
    .reported ("Unsupported file format: " ++ Source.normalSuffix path)
  else
    match file with
    | none => Source.absence path
    | some bytes =>
        match Text.Utf8.decode bytes with
        | .error flaw => .notUtf8 flaw
        | .ok _ => unset "documentation_standards"

/-- Counting succeeds on records. -/
theorem exists_countDocumented {elements : List Value}
    (h : ∀ element ∈ elements, ∃ fields, element = .record fields) :
    ∃ n, countDocumented elements = .ok n := by
  unfold countDocumented
  generalize 0 = start
  induction elements generalizing start with
  | nil => exact ⟨start, rfl⟩
  | cons element rest ih =>
      obtain ⟨fields, rfl⟩ := h element List.mem_cons_self
      have hrest : ∀ other ∈ rest, ∃ fields, other = .record fields := fun other hother =>
        h other (List.mem_cons_of_mem _ hother)
      exact ih hrest _

/-- A structure has its functions and its classes as lists of records, if it has them at all. -/
theorem getOr_structure [Halves] (s : Source.Structure) {name : String}
    (hname : name = "functions" ∨ name = "classes") :
    ∃ items, s.toValue.getOr name (.list []) = .ok (.list items) ∧
      ∀ item ∈ items, ∃ fields, item = .record fields := by
  cases s with
  | outlined format o =>
      rcases hname with rfl | rfl
      · refine ⟨o.functions.map (·.toValue), rfl, ?_⟩
        simp [Source.FunctionItem.toValue]
      · refine ⟨o.classes.map (·.toValue), rfl, ?_⟩
        simp [Source.ClassItem.toValue]
  | failed format cause =>
      rcases hname with rfl | rfl <;> exact ⟨[], rfl, by simp⟩
  | opaqueFile format =>
      rcases hname with rfl | rfl <;> exact ⟨[], rfl, by simp⟩

theorem exists_find {suffix : String} (hformat : (Format.ofSuffix? suffix).isNone = false) :
    ∃ format, Format.find (.text suffix) = .ok format := by
  obtain ⟨format, hfound⟩ := Option.isSome_iff_exists.mp (Option.isNone_eq_false_iff.mp hformat)
  refine ⟨format, ?_⟩
  simp only [Format.find, Format.find?, hfound, bind, Except.bind, pure, Except.pure]

/-- The structure of a text of a supported format can always be told. -/
theorem exists_structureOf (content : String) {suffix : String}
    (hformat : (Format.ofSuffix? suffix).isNone = false) :
    ∃ s, Source.structureOf (.text content) (.text suffix) = .ok s := by
  obtain ⟨format, hfind⟩ := exists_find hformat
  simp only [Source.structureOf, hfind, bind, Except.bind]
  cases format <;> exact ⟨_, rfl⟩

section Unset

variable {around : Surroundings} (hunset : around.standards.sections = none)

include hunset

/-- The standards are asked for as soon as the elements of the structure are counted. -/
theorem assess_unset [Halves] (documentation : Value) {suffix : String}
    (hformat : (Format.ofSuffix? suffix).isNone = false) (s : Source.Structure) :
    assess around.standards documentation (.text suffix) s.toValue =
      .error (unset "documentation_standards") := by
  obtain ⟨functions, hfunctions, hfunctionRecords⟩ := getOr_structure s (.inl rfl)
  obtain ⟨classes, hclasses, hclassRecords⟩ := getOr_structure s (.inr rfl)
  obtain ⟨documented, hdocumented⟩ := exists_countDocumented hfunctionRecords
  obtain ⟨documentedClasses, hdocumentedClasses⟩ := exists_countDocumented hclassRecords
  obtain ⟨format, hfind⟩ := exists_find hformat
  simp only [assess, tally, Standards.issues, hfunctions, hclasses, Value.size, Value.items,
    Value.items?, hdocumented, hdocumentedClasses, hfind, hunset, bind, Except.bind]

/-- Every report ends at its obstacle. -/
theorem reportOn_unset [Halves] (path shownPath : String) (file : Option (List UInt8))
    (previous : Value) :
    reportOn around path shownPath file previous = .error (obstacle path file) := by
  simp only [reportOn, obstacle]
  cases hformat : (Format.ofSuffix? (Source.normalSuffix path)).isNone with
  | true => simp only [if_true, bind, Except.bind, throw, throwThe, MonadExceptOf.throw]
  | false =>
      simp only [Bool.false_eq_true, if_false, bind, Except.bind]
      cases file with
      | none => simp only [Source.readFile]
      | some bytes =>
          cases hdecode : Text.Utf8.decode bytes with
          | error flaw => simp only [Source.readFile, hdecode]
          | ok cs =>
              obtain ⟨s, hs⟩ := exists_structureOf (String.ofList (Text.unifyLineEnds cs)) hformat
              have hassess := assess_unset hunset
                (documentationOf around (.text (Source.normalSuffix path)) s.toValue) hformat s
              simp only [Source.readFile, hdecode, hs, hassess]

theorem report_unset [Halves] (path : String) (file : Option (List UInt8)) (previous : Value) :
    report around (.text path) file previous =
      .error (.reported ("Error processing document: " ++ (obstacle path file).message)) := by
  simp only [report, Value.filePath, bind, Except.bind, reportOn_unset hunset]
  rfl

example [Halves] : (unset "documentation_standards").message =
    "'DocumentService' object has no attribute 'documentation_standards'" := rfl

/-- Nothing is answered on a file that is known by its suffix. -/
theorem exists_answerOn_unset [Halves] (stem suffix : String) (bytes : List UInt8) :
    ∃ fault, answerOn around stem suffix bytes = .error fault := by
  simp only [answerOn, reportOn_unset hunset]
  exact ⟨_, rfl⟩

/-- Every upload is refused as a failure of the server: an unsupported suffix too, whose own refusal
is caught on the way. -/
theorem upload_unset [Halves] (filename : Value) (bytes : List UInt8) :
    ∃ detail, upload around filename bytes = .error (.refused 500 detail) := by
  unfold upload
  cases filename.filePath with
  | error fault => exact ⟨_, rfl⟩
  | ok path =>
      simp only [bind, Except.bind]
      cases (Format.ofSuffix? (Source.normalSuffix path)).isNone with
      | true => exact ⟨_, rfl⟩
      | false =>
          obtain ⟨fault, hfault⟩ := exists_answerOn_unset hunset "upload"
            (Source.normalSuffix path) bytes
          simp only [Bool.false_eq_true, if_false, hfault]
          exact ⟨_, rfl⟩

theorem analyse_unset [Halves] (code language : Value) :
    ∃ detail, analyse around code language = .error (.refused 500 detail) := by
  unfold analyse
  cases language.textFor "lower" with
  | error fault => exact ⟨_, rfl⟩
  | ok name =>
      simp only [bind, Except.bind]
      cases code.bytes with
      | error fault => exact ⟨_, rfl⟩
      | ok bytes =>
          obtain ⟨fault, hfault⟩ :=
            exists_answerOn_unset hunset "snippet" (snippetSuffix name) bytes
          simp only [hfault]
          exact ⟨_, rfl⟩

end Unset

/-! ## Over the wire -/

open Web in
/-- A call that is refused as a failure of the server is answered so, sendable or not. -/
theorem status_answer_of_refused [Halves] {app : Application} {arrival : Arrival} {method : String}
    {endpoint : Endpoint} {captured : List (String × String)} {world : World} {call : Call}
    (hchoice : app.choice arrival = .found (.endpoint method endpoint) captured)
    (hcall : endpoint.call? captured arrival.around arrival.request world = some call)
    {detail : Value} (hrun : (endpoint.run call world).2 = .error (.refused 500 detail)) :
    (app.answer arrival world).status = 500 := by
  rw [Application.answer_of_choice hchoice, Endpoint.answer_of_call hcall, hrun]
  rcases Answer.status_sent (.ofFault app.manner (.refused 500 detail)) with hsame | ⟨-, hbroken⟩
  · rw [hsame]
    exact Answer.status_refusal app.manner 500 detail
  · exact hbroken

/-- Of a new service after any requests about versions and comments, and whatever the key, the
assistant's reply and the time: every report on a file ends in a failure that names its obstacle;
uploads and snippets are refused with the status of a server's failure; and so is every request that
is routed to one of the two with parameters that are accepted. -/
theorem every_report_fails [Halves] (supply : Nat → String) (requests : List History.Request)
    (key : String) (reply : Reply) (now : Stamp) :
    let around := (Service.after supply requests {}).around key reply now
    (∀ path file previous, report around (.text path) file previous =
      .error (.reported ("Error processing document: " ++ (obstacle path file).message))) ∧
    (∀ filename bytes, ∃ detail, upload around filename bytes = .error (.refused 500 detail)) ∧
    (∀ code language, ∃ detail, analyse around code language = .error (.refused 500 detail)) ∧
    ∀ (app : Web.Application) (arrival : Web.Arrival) (world : Web.World) (method : String)
      (endpoint : Web.Endpoint) (captured : List (String × String)) (call : Web.Call),
      arrival.around.documentation = around →
      app.choice arrival = .found (.endpoint method endpoint) captured →
      endpoint = Api.Documentation.upload ∨ endpoint = Api.Documentation.analyse →
      endpoint.call? captured arrival.around arrival.request world = some call →
      (app.answer arrival world).status = 500 := by
  intro around
  have hunset : around.standards.sections = none := rfl
  refine ⟨report_unset hunset, upload_unset hunset, analyse_unset hunset, ?_⟩
  intro app arrival world method endpoint captured call haround hchoice hendpoint hcall
  have hmet : call.around.documentation = around := by
    rw [Web.Endpoint.around_of_call hcall, haround]
  rcases hendpoint with rfl | rfl
  · obtain ⟨detail, hdetail⟩ := upload_unset hunset
      (.text ((call.file "file").filename.getD "")) (call.file "file").bytes
    have hrun : (Api.Documentation.upload.run call world).2 = .error (.refused 500 detail) := by
      simp only [Api.Documentation.upload, Web.Endpoint.reading, hmet, hdetail]
      rfl
    exact status_answer_of_refused hchoice hcall hrun
  · obtain ⟨detail, hdetail⟩ := analyse_unset hunset (call.arg "code") (call.arg "language")
    have hrun : (Api.Documentation.analyse.run call world).2 = .error (.refused 500 detail) := by
      simp only [Api.Documentation.analyse, Web.Endpoint.reading, hmet, hdetail]
      rfl
    exact status_answer_of_refused hchoice hcall hrun

/-! ### A snippet that is sent -/

section

open scoped Halves.Plain

/-- A service of which a version of a document has been made. -/
def usedService : Service :=
  Service.after (fun n => toString n)
    [⟨.text "plan", ⟨0, none⟩, .create (.text "first") (.text "ann") (.text "")⟩] {}

/-- A request for a report on a snippet, with a key to an assistant who answers. -/
def snippetSent : Web.Arrival where
  around :=
    { now := ⟨0, none⟩, signer := { secret := "s" }, reply := .unreachable, marks := [],
      similarities := []
      documentation := usedService.around "key" (.drafts [some "Doc"] true) ⟨0, none⟩ }
  request :=
    { method := "POST", path := "/api/v1/documentation/document/analyze"
      query := [("code", "let x"), ("language", "JavaScript")] }

/-- A world without anything. -/
def newWorld : Web.World where
  library := .start ⟨0, none⟩
  health := ⟨none, "test", 0⟩

set_option maxRecDepth 10000 in
theorem choice_snippetSent :
    Api.desk.choice snippetSent = .found (.endpoint "POST" Api.Documentation.analyse) [] := by
  with_unfolding_all rfl

/-- The parameters of the snippet are accepted, and the answer is a server's failure all the
same. -/
theorem snippet_answered_by_failure :
    (Api.Documentation.analyse.call? [] snippetSent.around snippetSent.request newWorld).isSome ∧
    (Api.desk.answer snippetSent newWorld).status = 500 := by
  have haccepted : (Api.Documentation.analyse.call? [] snippetSent.around snippetSent.request
      newWorld).isSome = true := by
    decide +kernel
  obtain ⟨call, hcall⟩ := Option.isSome_iff_exists.mp haccepted
  obtain ⟨-, -, -, hanswered⟩ := every_report_fails (fun n => toString n)
    [⟨.text "plan", ⟨0, none⟩, .create (.text "first") (.text "ann") (.text "")⟩] "key"
    (.drafts [some "Doc"] true) ⟨0, none⟩
  exact ⟨haccepted, hanswered Api.desk snippetSent newWorld "POST" Api.Documentation.analyse [] call
    rfl choice_snippetSent (.inr rfl) hcall⟩

end

end Scriptorium.Documentation
