import Scriptorium.Api
import Scriptorium.Proofs.Account
import Scriptorium.Proofs.Outcome
import Scriptorium.Proofs.Sorting
import Scriptorium.Proofs.Web.Arguments
import Scriptorium.Proofs.Web.Run
import Scriptorium.Proofs.Web.Sending
set_option autoImplicit false

/-!
# Sheets that are closed to a caller

What a caller may know of a database of sheets is a view of it: everything about open sheets, and of
a closed sheet which one it is, to whom it is open and which versions it has.  Whoever asks for a
sheet, its versions or the comments on a version gets parts of an open sheet or is refused, and the
answer is the same in any two databases with the same view.
-/

namespace Scriptorium

namespace Table

/-- A column holds a text if the text stands there. -/
theorem holds_text_iff {column s : String} {row : Row} :
    holds column (.text s) row = true ↔ Row.get row column = .text s :=
  Value.same_text_iff _ s

theorem mem_of_mem_window {skip limit : Int} {rows : Table} {row : Row}
    (h : row ∈ window skip limit rows) : row ∈ rows := by
  have hbefore : ∀ (place : Int) (rows : Table), (before place rows).Sublist rows := by
    intro place rows
    unfold before
    split <;> exact List.take_sublist _ _
  have hbehind : ∀ (place : Int) (rows : Table), (behind place rows).Sublist rows := by
    intro place rows
    unfold behind
    split <;> exact List.drop_sublist _ _
  exact ((hbefore _ _).trans (hbehind _ _)).subset h

end Table

namespace Sheets

open Web

/-! ## Views -/

/-- What a caller may know of a sheet: of a closed one, which it is and to whom it is open. -/
def shownSheet (caller sheet : Row) : Row :=
  if isOpenTo sheet caller then sheet
  else [("id", Row.get sheet "id"), ("is_public", Row.get sheet "is_public"),
    ("collaborators", Row.get sheet "collaborators")]

/-- Whether an identifier is the one of a sheet that is open to a caller. -/
def isOpen (db : Database) (caller : Row) (id : Value) : Bool :=
  (db.table table).any fun sheet => Table.holds "id" id sheet && isOpenTo sheet caller

/-- What a caller may know of a version: of one of a closed sheet, which it is and of which
sheet. -/
def shownVersion (db : Database) (caller version : Row) : Row :=
  if isOpen db caller (Row.get version "document_id") then version
  else [("id", Row.get version "id"), ("document_id", Row.get version "document_id")]

/-- Whether a comment stands at a version of a sheet that is open to a caller. -/
def isOnOpen (db : Database) (caller comment : Row) : Bool :=
  (db.table versionTable).any fun version =>
    Table.holds "id" (Row.get comment "version_id") version &&
      isOpen db caller (Row.get version "document_id")

/-- What a caller may know. -/
structure View where
  sheets : Table
  versions : Table
  comments : Table

/-- What a caller may know of a database. -/
def viewOf (db : Database) (caller : Row) : View where
  sheets := (db.table table).map (shownSheet caller)
  versions := (db.table versionTable).map (shownVersion db caller)
  comments := (db.table commentTable).filter (isOnOpen db caller)

section Shown

variable {caller sheet version : Row} {db : Database}

theorem shownSheet_of_open (h : isOpenTo sheet caller = true) :
    shownSheet caller sheet = sheet := if_pos h

/-- A sheet is shown with its identifier and as open as it is. -/
theorem get_id_shownSheet (caller sheet : Row) :
    Row.get (shownSheet caller sheet) "id" = Row.get sheet "id" := by
  unfold shownSheet
  split <;> rfl

theorem isOpenTo_shownSheet (caller sheet : Row) :
    isOpenTo (shownSheet caller sheet) caller = isOpenTo sheet caller := by
  unfold shownSheet
  split <;> rfl

theorem shownVersion_of_open (h : isOpen db caller (Row.get version "document_id") = true) :
    shownVersion db caller version = version := if_pos h

/-- A version is shown with its identifier and its sheet. -/
theorem get_id_shownVersion (db : Database) (caller version : Row) :
    Row.get (shownVersion db caller version) "id" = Row.get version "id" := by
  unfold shownVersion
  split <;> rfl

theorem get_sheet_shownVersion (db : Database) (caller version : Row) :
    Row.get (shownVersion db caller version) "document_id" = Row.get version "document_id" := by
  unfold shownVersion
  split <;> rfl

/-- Who finds an open sheet by an identifier knows that the identifier is open. -/
theorem isOpen_of_find? {id : Value} (hfind : db.find? table (Table.holds "id" id) = some sheet)
    (hopen : isOpenTo sheet caller = true) : isOpen db caller id = true := by
  refine List.any_eq_true.mpr ⟨sheet, List.mem_of_find?_eq_some hfind, ?_⟩
  rw [List.find?_some hfind, hopen]
  rfl

end Shown

/-! ## What is read

Looking for a sheet, or for a version and its sheet, is how every access is decided. -/

section Reading

variable {db : Database} {caller found : Row} {id : Value}

theorem read_of_open (hfind : db.find? table (Table.holds "id" id) = some found)
    (hopen : isOpenTo found caller = true) : read db id caller = .ok found := by
  unfold read sheet
  rw [hfind]
  simp only [bind, Except.bind, hopen, if_true]
  rfl

theorem read_of_closed
    (hclosed : ∀ row,
      db.find? table (Table.holds "id" id) = some row → isOpenTo row caller = false) :
    read db id caller = .error (notFound "Document") ∨
      read db id caller = .error (notAuthorized "access this document") := by
  unfold read sheet
  cases hfind : db.find? table (Table.holds "id" id) with
  | none => exact .inl rfl
  | some row =>
      simp only [bind, Except.bind, hclosed row hfind, Bool.false_eq_true, if_false]
      exact .inr rfl

theorem find?_of_read (h : read db id caller = .ok found) :
    db.find? table (Table.holds "id" id) = some found ∧ isOpenTo found caller = true := by
  unfold read sheet at h
  cases hfind : db.find? table (Table.holds "id" id) with
  | none => simp [hfind, bind, Except.bind] at h
  | some row =>
      cases hopen : isOpenTo row caller with
      | false => simp [hfind, hopen, bind, Except.bind, throw, throwThe, MonadExceptOf.throw] at h
      | true =>
          rw [hfind] at h
          simp only [bind, Except.bind, hopen, if_true] at h
          obtain rfl := Except.ok.inj h
          exact ⟨rfl, hopen⟩

/-- The sheet of the version with an identifier. -/
def sheetOfVersion? (db : Database) (id : Value) : Option Row := do
  let version ← db.find? versionTable (Table.holds "id" id)
  db.find? table (Table.holds "id" (Row.get version "document_id"))

theorem version_of_open (hsheet : sheetOfVersion? db id = some found)
    (hopen : isOpenTo found caller = true) (deed : String) :
    ∃ row, version db id caller deed = .ok row ∧
      db.find? versionTable (Table.holds "id" id) = some row ∧
      db.find? table (Table.holds "id" (Row.get row "document_id")) = some found := by
  obtain ⟨row, hrow, hfound⟩ := Option.bind_eq_some_iff.mp hsheet
  refine ⟨row, ?_, hrow, hfound⟩
  unfold version
  rw [hrow]
  dsimp only
  rw [hfound]
  simp only [hopen, if_true]
  rfl

theorem version_of_closed (deed : String)
    (hclosed : ∀ row, sheetOfVersion? db id = some row → isOpenTo row caller = false) :
    version db id caller deed = .error (notFound "Version") ∨
      version db id caller deed = .error (notAuthorized deed) := by
  unfold version
  cases hrow : db.find? versionTable (Table.holds "id" id) with
  | none => exact .inl rfl
  | some row =>
      have hof : sheetOfVersion? db id =
          db.find? table (Table.holds "id" (Row.get row "document_id")) := by
        rw [sheetOfVersion?, hrow]
        rfl
      dsimp only
      cases hfound : db.find? table (Table.holds "id" (Row.get row "document_id")) with
      | none => exact .inr rfl
      | some found =>
          simp only [hclosed found (hof.trans hfound), Bool.false_eq_true, if_false]
          exact .inr rfl

theorem isOpen_of_version {row : Row} {deed : String} (h : version db id caller deed = .ok row) :
    db.find? versionTable (Table.holds "id" id) = some row ∧
      isOpen db caller (Row.get row "document_id") = true := by
  by_cases hsome : ∃ found, sheetOfVersion? db id = some found ∧ isOpenTo found caller = true
  · obtain ⟨found, hfound, hopen⟩ := hsome
    obtain ⟨row', hrow', hfind, hsheet⟩ := version_of_open hfound hopen deed
    obtain rfl := Except.ok.inj (h.symm.trans hrow')
    exact ⟨hfind, isOpen_of_find? hsheet hopen⟩
  · have hclosed : ∀ found, sheetOfVersion? db id = some found → isOpenTo found caller = false := by
      intro found hfound
      exact Bool.eq_false_iff.mpr fun hopen => hsome ⟨found, hfound, hopen⟩
    rcases version_of_closed deed hclosed with hfault | hfault <;> rw [hfault] at h <;> cases h

end Reading

/-! ## Operations through a view -/

section Congruence

variable {db db' : Database} {caller : Row}

/-- What is looked for by what is shown of it is found in both tables or in none, and what is found
is shown alike. -/
theorem find?_map_cases {shown shown' : Row → Row} {test : Row → Bool} {rows rows' : Table}
    (h : rows'.map shown' = rows.map shown) (htest : ∀ row, test (shown row) = test row)
    (htest' : ∀ row, test (shown' row) = test row) :
    (rows'.find? test = none ∧ rows.find? test = none) ∨
      ∃ row' row, rows'.find? test = some row' ∧ rows.find? test = some row ∧
        shown' row' = shown row := by
  have hshown : test ∘ shown = test := funext htest
  have hshown' : test ∘ shown' = test := funext htest'
  have hfind : (rows'.find? test).map shown' = (rows.find? test).map shown :=
    calc (rows'.find? test).map shown'
        = (rows'.map shown').find? test := by rw [List.find?_map, hshown']
      _ = (rows.map shown).find? test := by rw [h]
      _ = (rows.find? test).map shown := by rw [List.find?_map, hshown]
  cases hfound : rows.find? test with
  | none =>
      rw [hfound, Option.map_none, Option.map_eq_none_iff] at hfind
      exact .inl ⟨hfind, rfl⟩
  | some row =>
      rw [hfound, Option.map_some] at hfind
      obtain ⟨row', hfound', halike⟩ := Option.map_eq_some_iff.mp hfind
      exact .inr ⟨row', row, hfound', rfl, halike⟩

variable (h : viewOf db' caller = viewOf db caller)
include h

theorem isOpen_congr : isOpen db' caller = isOpen db caller := by
  have hsheets : (db'.table table).map (shownSheet caller) =
      (db.table table).map (shownSheet caller) := congrArg View.sheets h
  have hany : ∀ (base : Database) (id : Value), isOpen base caller id =
      ((base.table table).map (shownSheet caller)).any
        fun sheet => Table.holds "id" id sheet && isOpenTo sheet caller := by
    intro base id
    rw [List.any_map]
    unfold isOpen
    congr 1
    funext sheet
    simp only [Function.comp, Table.holds, get_id_shownSheet, isOpenTo_shownSheet]
  funext id
  rw [hany, hany, hsheets]

/-- In both databases an identifier belongs to no sheet, to an open sheet that is the same one, or
to sheets that are closed. -/
theorem sheets_congr (id : Value) :
    (db'.find? table (Table.holds "id" id) = none ∧ db.find? table (Table.holds "id" id) = none) ∨
    ∃ sheet' sheet, db'.find? table (Table.holds "id" id) = some sheet' ∧
      db.find? table (Table.holds "id" id) = some sheet ∧
      (sheet' = sheet ∨ isOpenTo sheet' caller = false ∧ isOpenTo sheet caller = false) := by
  have htest : ∀ row, Table.holds "id" id (shownSheet caller row) = Table.holds "id" id row := by
    intro row
    rw [Table.holds, Table.holds, get_id_shownSheet]
  rcases find?_map_cases (congrArg View.sheets h) htest htest with
    hnone | ⟨sheet', sheet, hfound', hfound, hshown⟩
  · exact .inl hnone
  · have hopen : isOpenTo sheet' caller = isOpenTo sheet caller := by
      rw [← isOpenTo_shownSheet caller sheet', hshown, isOpenTo_shownSheet]
    refine .inr ⟨sheet', sheet, hfound', hfound, ?_⟩
    cases hreads : isOpenTo sheet caller with
    | false => exact .inr ⟨hopen.trans hreads, rfl⟩
    | true =>
        rw [shownSheet_of_open hreads, shownSheet_of_open (hopen.trans hreads)] at hshown
        exact .inl hshown

theorem read_congr (id : Value) : read db' id caller = read db id caller := by
  unfold read sheet
  rcases sheets_congr h id with ⟨hnone', hnone⟩ | ⟨sheet', sheet, hsome', hsome, halike⟩
  · rw [hnone', hnone]
  · rw [hsome', hsome]
    rcases halike with rfl | ⟨hclosed', hclosed⟩
    · rfl
    · simp only [bind, Except.bind, hclosed', hclosed, Bool.false_eq_true, if_false]

/-- The versions of an open sheet are the same. -/
theorem versionsOf_congr [Halves] {s : String} (hopen : isOpen db caller (.text s) = true) :
    versionsOf db' (.text s) = versionsOf db (.text s) := by
  have hview : (db'.table versionTable).map (shownVersion db' caller) =
      (db.table versionTable).map (shownVersion db caller) := congrArg View.versions h
  have hfilter : ∀ base : Database, isOpen base caller (.text s) = true →
      (base.table versionTable).filter (Table.holds "document_id" (.text s)) =
        ((base.table versionTable).map (shownVersion base caller)).filter
          (Table.holds "document_id" (.text s)) := by
    -- Versions are shown with their sheets, so the test may come before or after.
    intro base hbase
    have htest : Table.holds "document_id" (.text s) ∘ shownVersion base caller =
        Table.holds "document_id" (.text s) := by
      funext version
      simp only [Function.comp, Table.holds, get_sheet_shownVersion]
    rw [List.filter_map, htest, List.map_congr_left (g := id), List.map_id]
    intro version hversion
    have hof := Table.holds_text_iff.mp (List.mem_filter.mp hversion).2
    rw [shownVersion_of_open (by rw [hof]; exact hbase)]
    rfl
  have hopen' : isOpen db' caller (.text s) = true := by rw [isOpen_congr h]; exact hopen
  unfold versionsOf
  rw [hfilter db' hopen', hfilter db hopen, hview]

/-- In both databases an identifier belongs to no version, or to versions of one sheet that are the
same if this is open. -/
theorem versions_congr (id : Value) :
    (db'.find? versionTable (Table.holds "id" id) = none ∧
      db.find? versionTable (Table.holds "id" id) = none) ∨
    ∃ version' version, db'.find? versionTable (Table.holds "id" id) = some version' ∧
      db.find? versionTable (Table.holds "id" id) = some version ∧
      Row.get version' "document_id" = Row.get version "document_id" ∧
      (isOpen db caller (Row.get version "document_id") = true → version' = version) := by
  have htest : ∀ (base : Database) (row : Row),
      Table.holds "id" id (shownVersion base caller row) = Table.holds "id" id row := by
    intro base row
    rw [Table.holds, Table.holds, get_id_shownVersion]
  rcases find?_map_cases (congrArg View.versions h) (htest db) (htest db') with
    hnone | ⟨version', version, hfound', hfound, hshown⟩
  · exact .inl hnone
  · have hof : Row.get version' "document_id" = Row.get version "document_id" := by
      rw [← get_sheet_shownVersion db' caller version', hshown, get_sheet_shownVersion]
    refine .inr ⟨version', version, hfound', hfound, hof, ?_⟩
    intro hopen
    have hopen' : isOpen db' caller (Row.get version' "document_id") = true := by
      rw [isOpen_congr h, hof]
      exact hopen
    rwa [shownVersion_of_open hopen, shownVersion_of_open hopen'] at hshown

theorem version_congr (id : Value) (deed : String) :
    version db' id caller deed = version db id caller deed := by
  unfold version
  rcases versions_congr h id with ⟨hnone', hnone⟩ | ⟨version', version, hsome', hsome, hof, hsame⟩
  · rw [hnone', hnone]
  · rw [hsome', hsome]
    dsimp only
    rw [hof]
    rcases sheets_congr h (Row.get version "document_id") with
      ⟨hnone', hnone⟩ | ⟨sheet', sheet, hsheet', hsheet, halike⟩
    · rw [hnone', hnone]
    · rw [hsheet', hsheet]
      rcases halike with rfl | ⟨hclosed', hclosed⟩
      · cases hopen : isOpenTo sheet' caller with
        | false => simp only [hopen, Bool.false_eq_true, if_false]
        | true =>
            rw [hsame (isOpen_of_find? hsheet hopen)]
      · simp only [hclosed', hclosed, Bool.false_eq_true, if_false]

theorem versions_window_congr [Halves] {s : String} (skip limit : Int) :
    versions db' (.text s) caller skip limit = versions db (.text s) caller skip limit := by
  unfold versions
  rw [read_congr h]
  cases hread : read db (.text s) caller with
  | error fault => rfl
  | ok sheet =>
      obtain ⟨hfind, hopen⟩ := find?_of_read hread
      rw [versionsOf_congr h (isOpen_of_find? hfind hopen)]

/-- The comments on a version of an open sheet are the same. -/
theorem comments_congr {s : String} :
    comments db' (.text s) caller = comments db (.text s) caller := by
  have hview : (db'.table commentTable).filter (isOnOpen db' caller) =
      (db.table commentTable).filter (isOnOpen db caller) := congrArg View.comments h
  have hfilter : ∀ (base : Database) (row : Row) (deed : String),
      version base (.text s) caller deed = .ok row →
      (base.table commentTable).filter (fun comment =>
          Table.holds "version_id" (.text s) comment &&
            Table.holds "parent_comment_id" .null comment) =
        ((base.table commentTable).filter (isOnOpen base caller)).filter fun comment =>
          Table.holds "version_id" (.text s) comment &&
            Table.holds "parent_comment_id" .null comment := by
    -- Whoever may see the version sees every comment on it: the filters of the view add nothing.
    intro base row deed hrow
    obtain ⟨hfind, hopen⟩ := isOpen_of_version hrow
    rw [List.filter_filter]
    refine List.filter_congr ?_
    intro comment _
    cases hof : Table.holds "version_id" (.text s) comment with
    | false => rfl
    | true =>
        have hon : isOnOpen base caller comment = true := by
          refine List.any_eq_true.mpr ⟨row, List.mem_of_find?_eq_some hfind, ?_⟩
          rw [Table.holds_text_iff.mp hof, List.find?_some hfind, hopen]
          rfl
        rw [hon, Bool.and_true]
  unfold comments
  rw [version_congr h]
  cases hrow : version db (.text s) caller "view comments on this document" with
  | error fault => rfl
  | ok row =>
      rw [hfilter db' row _ ((version_congr h _ _).trans hrow), hfilter db row _ hrow, hview]

end Congruence

/-! ## Parts of sheets -/

/-- A version of a sheet. -/
def isVersionOf (sheet version : Row) : Bool :=
  Table.holds "id" (Row.get version "document_id") sheet

/-- What belongs to a sheet: the sheet, its versions and the comments on these. -/
inductive PartOf (db : Database) (sheet : Row) : Row → Prop where
  | itself (hstored : sheet ∈ db.table table) : PartOf db sheet sheet
  | version {version : Row} (hstored : version ∈ db.table versionTable)
      (hof : isVersionOf sheet version = true) : PartOf db sheet version
  | comment {version comment : Row} (hversion : version ∈ db.table versionTable)
      (hof : isVersionOf sheet version = true) (hstored : comment ∈ db.table commentTable)
      (hon : Table.holds "id" (Row.get comment "version_id") version = true) :
      PartOf db sheet comment

/-- A result that consists of rows of a sort. -/
def ShowsOnly (P : Row → Prop) : Result → Prop
  | .row row => P row
  | .rows rows => ∀ row ∈ rows, P row
  | .value _ | .final _ _ => False

section Parts

variable {db : Database} {found : Row} {s : String}

/-- The versions that are looked for by the identifier of a sheet are its versions. -/
theorem holds_eq_isVersionOf (h : Table.holds "id" (.text s) found = true) :
    Table.holds "document_id" (.text s) = isVersionOf found := by
  funext version
  rw [isVersionOf, Table.holds, Table.holds, Table.holds_text_iff.mp h, Value.same_comm_of_text]

/-- How versions are ordered. -/
def byNumber [Halves] (a b : Row) : Outcome Bool :=
  (Row.get a "version_number").less (Row.get b "version_number")

theorem versionsOf_eq [Halves] (db : Database) (id : Value) :
    versionsOf db id =
      List.reverse <$> Sorting.sort byNumber
        ((db.table versionTable).filter (Table.holds "document_id" id)).reverse := rfl

/-- What is given as the versions of a sheet are its versions. -/
theorem partOf_of_versionsOf [Halves] {rows : Table} (hid : Table.holds "id" (.text s) found = true)
    (h : versionsOf db (.text s) = .ok rows) : ∀ row ∈ rows, PartOf db found row := by
  rw [versionsOf_eq, Outcome.map_eq_ok_iff, holds_eq_isVersionOf hid] at h
  obtain ⟨sorted, hsort, rfl⟩ := h
  intro row hrow
  have hmem : row ∈ (db.table versionTable).filter (isVersionOf found) := by
    simpa using (Sorting.sort_perm hsort).subset (List.mem_reverse.mp hrow)
  exact .version (List.mem_filter.mp hmem).1 (List.mem_filter.mp hmem).2

/-- The versions of a sheet are given if they can be ordered. -/
theorem versionsOf_ok [Halves] (hid : Table.holds "id" (.text s) found = true)
    (h : Sorting.Comparable byNumber ((db.table versionTable).filter (isVersionOf found))) :
    ∃ rows, versionsOf db (.text s) = .ok rows := by
  rw [versionsOf_eq, holds_eq_isVersionOf hid]
  obtain ⟨sorted, hsort⟩ := Sorting.sort_ok (h.mono fun row hrow => List.mem_reverse.mp hrow)
  exact ⟨sorted.reverse, Outcome.map_eq_ok_iff.mpr ⟨sorted, hsort, rfl⟩⟩

end Parts

/-! ## Requests -/

theorem status_sent_refused [Halves] (status : Nat) {words : String}
    (hwords : Text.IsAscii words.toList) :
    (Answer.ofFault Api.desk.manner (.refused status (.text words))).sent.status = status := by
  have hanswer : Answer.ofFault Api.desk.manner (.refused status (.text words)) =
      .refusal .plain status (.text words) := rfl
  rw [hanswer, Answer.sent_refusal status hwords, Answer.status_refusal]

/-- What is asked about a sheet. -/
inductive Reading where
  | sheet
  | versions
  | comments
  deriving DecidableEq, Repr

namespace Reading

/-- Who answers. -/
def endpoint [Halves] : Reading → Endpoint
  | sheet => Api.Sheets.get
  | versions => Api.Sheets.versions
  | comments => Api.Sheets.comments

/-- The sheet that a call asks about. -/
def subject? (reading : Reading) (db : Database) (call : Call) : Option Row :=
  match reading with
  | sheet | versions => db.find? table (Table.holds "id" (call.arg "document_id"))
  | comments => sheetOfVersion? db (call.arg "version_id")

/-- The words of refusals. -/
def refusals : List Fault :=
  [notFound "Document", notAuthorized "access this document", notFound "Version",
    notAuthorized "view comments on this document"]

theorem status_refusals [Halves] : ∀ fault ∈ refusals,
    (Answer.ofFault Api.desk.manner fault).sent.status ∈ [403, 404] := by
  intro fault hfault
  simp only [refusals, List.mem_cons, List.not_mem_nil, or_false] at hfault
  rcases hfault with rfl | rfl | rfl | rfl
  · rw [notFound, status_sent_refused _ (by decide +kernel)]
    decide
  · rw [notAuthorized, status_sent_refused _ (by decide +kernel)]
    decide
  · rw [notFound, status_sent_refused _ (by decide +kernel)]
    decide
  · rw [notAuthorized, status_sent_refused _ (by decide +kernel)]
    decide

variable {reading : Reading} {captured : List (String × String)} {around : Surroundings}
  {request : Web.Request} {world₀ world : World} {call : Call} {found : Row}

theorem sheet_run [Halves] (call : Call) (world : World) : (sheet.endpoint.run call world).2 =
    .row <$> read world.database (call.arg "document_id") call.caller := rfl

theorem versions_run [Halves] (call : Call) (world : World) : (versions.endpoint.run call world).2 =
    .rows <$> Sheets.versions world.database (call.arg "document_id") call.caller
      (call.whole "skip") (call.whole "limit") := rfl

theorem comments_run [Halves] (call : Call) (world : World) : (comments.endpoint.run call world).2 =
    .rows <$> Sheets.comments world.database (call.arg "version_id") call.caller := rfl

/-- Whoever asks about a sheet that is not open is refused. -/
theorem run_of_closed [Halves]
    (hclosed : ∀ found, reading.subject? world.database call = some found →
      isOpenTo found call.caller = false) :
    ∃ fault ∈ refusals, (reading.endpoint.run call world).2 = .error fault := by
  cases reading with
  | sheet =>
      rw [sheet_run]
      rcases read_of_closed hclosed with hfault | hfault <;> rw [hfault]
      · exact ⟨_, by simp [refusals], rfl⟩
      · exact ⟨_, by simp [refusals], rfl⟩
  | versions =>
      rw [versions_run, Sheets.versions]
      rcases read_of_closed hclosed with hfault | hfault <;> rw [hfault]
      · exact ⟨_, by simp [refusals], rfl⟩
      · exact ⟨_, by simp [refusals], rfl⟩
  | comments =>
      rw [comments_run, Sheets.comments]
      rcases version_of_closed "view comments on this document" hclosed with hfault | hfault <;>
        rw [hfault]
      · exact ⟨_, by simp [refusals], rfl⟩
      · exact ⟨_, by simp [refusals], rfl⟩

/-- The identifier by which a call asks. -/
def ident : Reading → Schema.Slot FormName
  | sheet | versions => Api.Sheets.ident
  | comments => Api.Sheets.versionIdent

/-- Identifiers in calls are texts. -/
theorem ident_text [Halves]
    (hcall : reading.endpoint.call? captured around request world₀ = some call) :
    ∃ s, call.arg reading.ident.name = .text s := by
  have hfits : Schema.Fits Forms.form Forms.anyText (call.arg reading.ident.name) := by
    cases reading with
    | sheet =>
        exact Endpoint.fits_arg hcall (by simp [endpoint, Api.Sheets.get]) Api.Sheets.ident
          List.mem_cons_self rfl
    | versions =>
        have hnames : (([Api.Sheets.ident] ++ Api.Users.windowed 10).map (·.name)).Nodup := by
          decide
        exact Endpoint.fits_arg hcall hnames Api.Sheets.ident List.mem_cons_self rfl
    | comments =>
        exact Endpoint.fits_arg hcall (by simp [endpoint, Api.Sheets.comments])
          Api.Sheets.versionIdent List.mem_cons_self rfl
  exact hfits.eq_text

/-- Whoever asks about an open sheet is given parts of it, unless its versions are asked for and
cannot be ordered. -/
theorem run_of_open [Halves]
    (hcall : reading.endpoint.call? captured around request world₀ = some call)
    (hsubject : reading.subject? world.database call = some found)
    (hopen : isOpenTo found call.caller = true) :
    (∃ result, (reading.endpoint.run call world).2 = .ok result ∧
      ShowsOnly (PartOf world.database found) result) ∨
    (reading = versions ∧ ¬Sorting.Comparable byNumber
      ((world.database.table versionTable).filter (isVersionOf found))) := by
  obtain ⟨s, hid⟩ := ident_text hcall
  cases reading with
  | sheet =>
      rw [sheet_run, read_of_open hsubject hopen]
      exact .inl ⟨.row found, rfl, .itself (List.mem_of_find?_eq_some hsubject)⟩
  | versions =>
      have hid : call.arg "document_id" = .text s := hid
      have hholds : Table.holds "id" (.text s) found = true := by
        rw [← hid]
        exact List.find?_some hsubject
      rw [versions_run, Sheets.versions, read_of_open hsubject hopen]
      by_cases hcomparable : Sorting.Comparable byNumber
          ((world.database.table versionTable).filter (isVersionOf found))
      · obtain ⟨rows, hrows⟩ := versionsOf_ok hholds hcomparable
        have hparts := partOf_of_versionsOf hholds hrows
        rw [← hid] at hrows
        refine .inl ⟨.rows (Table.window (call.whole "skip") (call.whole "limit") rows), ?_, ?_⟩
        · change Result.rows <$> (Table.window _ _ <$> versionsOf _ (call.arg "document_id")) = _
          rw [hrows]
          rfl
        · exact fun row hrow => hparts row (Table.mem_of_mem_window hrow)
      · exact .inr ⟨rfl, hcomparable⟩
  | comments =>
      obtain ⟨version, hversion, hfind, hsheet⟩ :=
        version_of_open hsubject hopen "view comments on this document"
      rw [comments_run, Sheets.comments, hversion]
      refine .inl ⟨_, rfl, ?_⟩
      intro comment hcomment
      obtain ⟨hstored, htest⟩ := List.mem_filter.mp hcomment
      have hon : Row.get comment "version_id" = call.arg "version_id" := by
        rw [show call.arg "version_id" = .text s from hid] at htest ⊢
        exact Table.holds_text_iff.mp (Bool.and_eq_true_iff.mp htest).1
      have hof := List.find?_some hsheet
      refine .comment (List.mem_of_find?_eq_some hfind) hof hstored ?_
      rw [hon]
      exact List.find?_some hfind

/-- What a call gives depends on the view of the caller. -/
theorem run_congr [Halves]
    (hcall : reading.endpoint.call? captured around request world₀ = some call) {world' : World}
    (h : viewOf world'.database call.caller = viewOf world.database call.caller) :
    (reading.endpoint.run call world').2 = (reading.endpoint.run call world).2 := by
  obtain ⟨s, hid⟩ := ident_text hcall
  cases reading with
  | sheet => rw [sheet_run, sheet_run, read_congr h]
  | versions =>
      rw [versions_run, versions_run, show call.arg "document_id" = .text s from hid,
        versions_window_congr h]
  | comments =>
      rw [comments_run, comments_run, show call.arg "version_id" = .text s from hid,
        comments_congr h]

end Reading

/-- A caller who asks for a sheet, its versions or the comments on one of them is given parts of a
sheet that is open to the caller, or is refused if what is asked about is not there or not open.  In
any two worlds that look alike to the caller the answer is the same. -/
theorem closed_sheets_stay_closed [Halves] {reading : Reading} {arrival : Arrival}
    {captured : List (String × String)} {caller : Row} {world : World}
    (hchoice : Api.desk.choice arrival = .found (.endpoint "GET" reading.endpoint) captured)
    (hcaller : callerOf .users arrival.around world arrival.request = .ok caller) :
    (∀ call,
      reading.endpoint.call? captured arrival.around arrival.request world = some call →
      (∀ found, reading.subject? world.database call = some found →
        isOpenTo found caller = true →
        (∃ result, (reading.endpoint.run call world).2 = .ok result ∧
          ShowsOnly (PartOf world.database found) result) ∨
        (reading = .versions ∧ ¬Sorting.Comparable byNumber
          ((world.database.table versionTable).filter (isVersionOf found)))) ∧
      ((∀ found, reading.subject? world.database call = some found →
          isOpenTo found caller = false) →
        (Api.desk.answer arrival world).status ∈ [403, 404])) ∧
    ∀ world', callerOf .users arrival.around world' arrival.request = .ok caller →
      viewOf world'.database caller = viewOf world.database caller →
      Api.desk.answer arrival world' = Api.desk.answer arrival world := by
  have hcallers : reading.endpoint.callers = .users := by cases reading <;> rfl
  have hknown : ∀ call,
      reading.endpoint.call? captured arrival.around arrival.request world = some call →
      call.caller = caller := by
    intro call hcall
    obtain ⟨-, -, haccepted, -, -⟩ := Endpoint.of_call?_eq_some hcall
    rw [hcallers, hcaller] at haccepted
    exact (Except.ok.inj haccepted).symm
  refine ⟨?_, ?_⟩
  · intro call hcall
    obtain rfl := hknown call hcall
    refine ⟨fun found hfound hopen => Reading.run_of_open hcall hfound hopen, ?_⟩
    intro hclosed
    obtain ⟨fault, hfault, hrun⟩ := Reading.run_of_closed hclosed
    rw [Application.answer_of_choice hchoice, Endpoint.answer_of_call hcall, hrun]
    exact Reading.status_refusals fault hfault
  · intro world' hcaller' hview
    have hsame : callerOf reading.endpoint.callers arrival.around world' arrival.request =
        callerOf reading.endpoint.callers arrival.around world arrival.request := by
      rw [hcallers, hcaller, hcaller']
    rw [Application.answer_of_choice hchoice, Application.answer_of_choice hchoice,
      Endpoint.answer_congr hsame]
    intro call hcall
    obtain rfl := hknown call hcall
    exact Reading.run_congr hcall hview

/-! ### Comments on a closed sheet -/

/-- A user. -/
def bea : Row := [("id", .int 1), ("email", .text "bea@example.com")]

/-- A world with a sheet that is open to the user, and one that is closed and has a version with a
comment. -/
def archive (title content remark : String) : World where
  library := .start (Stamp.ofSeconds 0)
  database :=
    { tables :=
        [("User", [bea]),
          (table,
            [[("id", .text "memo"), ("title", .text "Memo"), ("is_public", .bool true)],
              [("id", .text "plan"), ("title", .text title), ("is_public", .bool false),
                ("collaborators", .list [.int 2])]]),
          (versionTable,
            [[("id", .text "draft"), ("document_id", .text "plan"), ("content", .text content)]]),
          (commentTable,
            [[("id", .text "first"), ("version_id", .text "draft"), ("content", .text remark)]])] }
  health := ⟨none, "test", 0⟩

section

open scoped Halves.Plain

/-- A request of the user for the comments on the closed sheet. -/
def asksForComments : Arrival where
  around :=
    { now := Stamp.ofSeconds 0, signer := Account.scribe, reply := .unreachable, marks := [],
      similarities := [], documentation := { now := Stamp.ofSeconds 0 } }
  request :=
    { method := "GET", path := "/api/v1/collaboration/versions/draft/comments",
      authorization := some ("Bearer " ++ Account.scribed "1") }

theorem choice_asksForComments : Api.desk.choice asksForComments =
    .found (.endpoint "GET" Reading.comments.endpoint) [("version_id", "draft")] := by
  have hsteps : Pattern.stepsOf asksForComments.request.realPath =
      ["", "api", "v1", "collaboration", "versions", "draft", "comments"] := by
    decide +kernel
  have hmethod : asksForComments.request.method = "GET" := rfl
  unfold Application.choice
  rw [hsteps, hmethod]
  exact Application.choose_of_getElem? (n := 13) rfl (by decide +kernel) (by decide +kernel)
    (by decide +kernel)

theorem callerOf_asksForComments (title content remark : String) :
    callerOf .users asksForComments.around (archive title content remark)
      asksForComments.request = .ok bea := by
  have hbea : Account.ofToken Account.scribe (Stamp.ofSeconds 0) [bea] (Account.scribed "1") =
      .ok bea := Account.ofToken_scribed rfl (by decide) rfl
  exact (callerOf_bearer rfl).trans hbea

theorem call?_asksForComments (title content remark : String) :
    Reading.comments.endpoint.call? [("version_id", "draft")] asksForComments.around
        asksForComments.request (archive title content remark) =
      some ⟨asksForComments.around, [("version_id", .text "draft")], [], [], bea⟩ := by
  have hcaller : callerOf Reading.comments.endpoint.callers asksForComments.around
      (archive title content remark) asksForComments.request = .ok bea :=
    callerOf_asksForComments title content remark
  unfold Endpoint.call?
  rw [hcaller]
  with_unfolding_all rfl

/-- Whatever the closed sheet, its version and the comment say, the user is refused in the same
words. -/
theorem closed_comments_refused_alike :
    (Api.desk.answer asksForComments (archive "Plan" "Buy" "Why?")).status ∈ [403, 404] ∧
    Api.desk.answer asksForComments (archive "Gift" "Sell" "Yes!") =
      Api.desk.answer asksForComments (archive "Plan" "Buy" "Why?") := by
  obtain ⟨hcalls, halike⟩ := closed_sheets_stay_closed choice_asksForComments
    (callerOf_asksForComments "Plan" "Buy" "Why?")
  refine ⟨(hcalls _ (call?_asksForComments "Plan" "Buy" "Why?")).2 ?_,
    halike _ (callerOf_asksForComments "Gift" "Sell" "Yes!") rfl⟩
  intro found hfound
  obtain rfl := Option.some.inj hfound
  rfl

end

end Sheets

end Scriptorium
