import Scriptorium.Proofs.History.Transcript
import Scriptorium.Proofs.Outcome
set_option autoImplicit false

/-!
# The history of a document as a log

After every run from an empty archive the history of a document is the log of the requests that made
versions of it.  Comments live inside the versions, so the history is seen through `Version.bare`,
which forgets them: `map_bare_answer` says once that no request but one that makes a version of the
document changes what is seen.
-/

namespace Scriptorium.History

/-! ## What the answers show -/

/-- A version as the list of its document shows it. -/
def Version.summary (v : Version) (length : Nat) : Value :=
  .record [("version_id", .text v.id), ("timestamp", .text v.time.text), ("author", v.author),
    ("message", v.message), ("content_length", .int length)]

/-- A version as it is shown by itself: with its content, and with the document it is a version
of. -/
def Version.page (document : Value) (v : Version) : Value :=
  .record [("document_id", document), ("version_id", .text v.id), ("content", v.content),
    ("author", v.author), ("timestamp", .text v.time.text), ("message", v.message)]

/-- A version without its comments. -/
def Version.bare (v : Version) : Version := { v with comments := [] }

/-- The number of characters of a text. -/
def textLength (v : Value) : Nat := (v.text?.getD "").length

theorem Version.toValue_eq (v : Version) : v.toValue = v.summary <$> v.content.size := by
  unfold Version.toValue
  cases v.content.size <;> rfl

theorem mapM_summary_of_texts {log : List Version} (h : ∀ v ∈ log, ∃ s, v.content = .text s) :
    log.mapM (fun v => v.summary <$> v.content.size) =
      .ok (log.map fun v => v.summary (textLength v.content)) := by
  refine Outcome.mapM_eq_ok_map fun v hv => ?_
  obtain ⟨s, hs⟩ := h v hv
  rw [hs]
  rfl

theorem eq_text_of_text? {v : Value} {s : String} (h : v.text? = some s) : v = .text s := by
  cases v <;> simp [Value.text?] at h
  rw [h]

theorem exists_text_of_isSome {v : Value} (h : v.text?.isSome = true) : ∃ s, v = .text s := by
  obtain ⟨s, hs⟩ := Option.isSome_iff_exists.mp h
  exact ⟨s, eq_text_of_text? hs⟩

theorem created_bare [Halves] {d : String} {t : List Exchange} {v : Version} (h : v ∈ created d t) :
    v.bare = v := by
  obtain ⟨x, -, hx⟩ := List.mem_filterMap.mp h
  unfold Exchange.creation? at hx
  split at hx
  · split at hx
    · rw [← Option.some.inj hx]
      rfl
    · simp at hx
  · simp at hx

/-- The versions of a document without their comments are the log. -/
theorem Kept.map_bare [Halves] {supply : Nat → String} {books : Books} {t : List Exchange}
    (h : Kept supply books t) (d : String) :
    (books.archive.versions d).map Version.bare = created d t := by
  rw [h.versions, versionsAfter, List.map_map]
  exact (List.map_congr_left fun v hv => created_bare hv).trans (List.map_id' _)

section History

variable [Halves] (supply : Nat → String) {document : Value} {d : String}
  (hname : documentName document = .ok d) (books : Books) (now : Stamp)

include hname

/-- The list of versions depends on the versions without their comments alone. -/
theorem listed_versions :
    (books.answer supply ⟨document, now, .versions⟩).2 =
      .list <$> ((books.archive.versions d).map Version.bare).mapM
        fun v => v.summary <$> v.content.size := by
  rw [Books.answer_of_name hname, List.mapM_map]
  simp only [Books.fulfil, Version.toValue_eq]
  rfl

/-- So does the latest version. -/
theorem latest_version :
    (books.answer supply ⟨document, now, .latest⟩).2 =
      .ok ((((books.archive.versions d).map Version.bare).getLast?.map
        (·.page document)).getD .null) := by
  rw [Books.answer_of_name hname, List.getLast?_map, Option.map_map]
  rfl

end History

/-! ## What a request changes -/

theorem map_changeFirst {α β : Type} {p : α → Bool} {f : α → α} {g : α → β}
    (h : ∀ x, g (f x) = g x) (xs : List α) : (Archive.changeFirst p f xs).map g = xs.map g := by
  induction xs with
  | nil => rfl
  | cons x rest ih =>
      unfold Archive.changeFirst
      split
      · rw [List.map_cons, List.map_cons, h]
      · rw [List.map_cons, List.map_cons, ih]

/-- A change of comments leaves the versions of every document what they were without them. -/
theorem map_bare_changeVersion (archive : Archive) (document id d : String)
    {f : Version → Version} (hf : ∀ v, (f v).bare = v.bare) :
    ((archive.changeVersion document id f).versions d).map Version.bare =
      (archive.versions d).map Version.bare := by
  rw [Archive.versions_changeVersion]
  split
  · exact map_changeFirst hf _
  · rfl

/-- A request that makes a version of a document. -/
def Request.Creates [Halves] (r : Request) (d : String) : Prop :=
  r.name? = some d ∧ ∃ content author message, r.wish = .create content author message

/-- Only a request that makes a version of the document changes its history. -/
theorem map_bare_answer [Halves] (supply : Nat → String) (books : Books) {request : Request}
    {d : String} (h : ¬ request.Creates d) :
    ((books.answer supply request).1.archive.versions d).map Version.bare =
      (books.archive.versions d).map Version.bare := by
  obtain ⟨document, now, wish⟩ := request
  unfold Books.answer
  cases hname : documentName document with
  | error fault => rfl
  | ok name =>
      cases wish with
      | create content author message =>
          have hne : d ≠ name := by
            rintro rfl
            exact h ⟨by simp [Request.name?, hname, Except.toOption], content, author, message, rfl⟩
          simp [Books.fulfil, Archive.versions_create, hne]
      | comment version content author =>
          simp only [Books.fulfil, Archive.comment]
          cases books.archive.version? name version with
          | none => rfl
          | some found => exact map_bare_changeVersion _ _ _ _ fun _ => rfl
      | resolve version comment author =>
          simp only [Books.fulfil, Archive.resolve]
          split
          · exact map_bare_changeVersion _ _ _ _ fun _ => rfl
          · rfl
      | _ => rfl

/-! ## Identifiers -/

theorem Exchange.name?_of_creation? [Halves] {d : String} {x : Exchange} {v : Version}
    (h : x.creation? d = some v) : x.request.name? = some d := by
  unfold creation? at h
  split at h
  · split at h
    · assumption
    · simp at h
  · simp at h

/-- An identifier tells of which document a version was made, and which version it is. -/
theorem Kept.eq_of_id_eq [Halves] {supply : Nat → String} {books : Books} {t : List Exchange}
    (h : Kept supply books t) (hfresh : Fresh supply books.taken) {d e : String} {v w : Version}
    (hv : v ∈ created d t) (hw : w ∈ created e t) (hid : v.id = w.id) : d = e ∧ v = w := by
  obtain ⟨x, hx, hxv⟩ := List.mem_filterMap.mp hv
  obtain ⟨y, hy, hyw⟩ := List.mem_filterMap.mp hw
  have hxid := h.numbered d x hx v hxv
  have hyid := h.numbered e y hy w hyw
  rw [← hid] at hyid
  obtain rfl : x = y := eq_of_nodup_filterMap (h.nodup_identifiers hfresh) hx hy hxid hyid
  obtain rfl : d = e := by
    have hd := Exchange.name?_of_creation? hxv
    rw [Exchange.name?_of_creation? hyw] at hd
    exact (Option.some.inj hd).symm
  exact ⟨rfl, Option.some.inj (hxv.symm.trans hyw)⟩

/-- What is found under an identifier is a version that was made of the document. -/
theorem Kept.created_of_version? [Halves] {supply : Nat → String} {books : Books}
    {t : List Exchange} (h : Kept supply books t) {d id : String} {found : Version}
    (hfound : books.archive.version? d id = some found) :
    found.bare ∈ created d t ∧ found.bare.id = id := by
  obtain ⟨hid, hmem⟩ := Archive.of_version?_eq_some hfound
  rw [← h.map_bare d]
  exact ⟨List.mem_map_of_mem hmem, hid⟩

/-- A version that was made of a document is found there and in no other document. -/
theorem Kept.version?_of_created [Halves] {supply : Nat → String} {books : Books}
    {t : List Exchange}
    (h : Kept supply books t) (hfresh : Fresh supply books.taken) {d : String} {v : Version}
    (hv : v ∈ created d t) :
    (∃ found, books.archive.version? d v.id = some found ∧ found.bare = v) ∧
      ∀ other, other ≠ d → books.archive.version? other v.id = none := by
  constructor
  · have hthere : books.archive.version? d v.id ≠ none :=
      h.version?_ne_none_iff.mpr (List.mem_map_of_mem hv)
    obtain ⟨found, hfound⟩ := Option.ne_none_iff_exists'.mp hthere
    obtain ⟨hmade, hid⟩ := h.created_of_version? hfound
    exact ⟨found, hfound, (h.eq_of_id_eq hfresh hmade hv hid).2⟩
  · intro other hother
    cases hfound : books.archive.version? other v.id with
    | none => rfl
    | some found =>
        obtain ⟨hmade, hid⟩ := h.created_of_version? hfound
        exact absurd (h.eq_of_id_eq hfresh hmade hv hid).1 hother

/-! ## The history after a run -/

/-- For every document and after every run whose identifiers are fresh, the history of the document
is the log of the requests that made versions of it: the list of versions shows each of them, in
order, with its author, message, time and the length of its content; the latest version is the last
of them, shown with its content, and there is none if and only if the log is empty; each is found
under its identifier in this document and in no other; and a request that does not make a version of
the document, whether it succeeds or fails, changes neither answer. -/
theorem history_is_log_of_creations [Halves] (supply : Nat → String) (requests : List Request)
    (hfresh : Fresh supply (run supply requests {}).1.taken) (d : String) :
    let books := (run supply requests {}).1
    let log := created d (run supply requests {}).2
    (∀ document now, documentName document = .ok d →
      (books.answer supply ⟨document, now, .versions⟩).2 =
        .list <$> log.mapM (fun v => v.summary <$> v.content.size) ∧
      ((∀ v ∈ log, ∃ s, v.content = .text s) →
        (books.answer supply ⟨document, now, .versions⟩).2 =
          .ok (.list (log.map fun v => v.summary (textLength v.content)))) ∧
      (books.answer supply ⟨document, now, .latest⟩).2 =
        .ok ((log.getLast?.map (·.page document)).getD .null) ∧
      ((books.answer supply ⟨document, now, .latest⟩).2 = .ok .null ↔ log = [])) ∧
    (∀ v ∈ log, (∃ found, books.archive.version? d v.id = some found ∧ found.bare = v) ∧
      ∀ other, other ≠ d → books.archive.version? other v.id = none) ∧
    (∀ request : Request, ¬ request.Creates d → ∀ document now, documentName document = .ok d →
      let later := (books.answer supply request).1
      (later.answer supply ⟨document, now, .versions⟩).2 =
        (books.answer supply ⟨document, now, .versions⟩).2 ∧
      (later.answer supply ⟨document, now, .latest⟩).2 =
        (books.answer supply ⟨document, now, .latest⟩).2) := by
  intro books log
  have h : Kept supply books (run supply requests {}).2 := kept_after_run requests hfresh
  have hlog : (books.archive.versions d).map Version.bare = log := h.map_bare d
  refine ⟨?_, ?_, ?_⟩
  · intro document now hname
    have hversions := listed_versions supply hname books now
    have hlatest := latest_version supply hname books now
    rw [hlog] at hversions hlatest
    refine ⟨hversions, ?_, hlatest, ?_⟩
    · intro htexts
      rw [hversions, mapM_summary_of_texts htexts]
      rfl
    · rw [hlatest, ← List.getLast?_eq_none_iff]
      cases log.getLast? <;> simp [Version.page]
  · exact fun v hv => h.version?_of_created hfresh hv
  · intro request hother document now hname later
    have hsame := map_bare_answer supply books hother
    refine ⟨?_, ?_⟩
    · rw [listed_versions supply hname, listed_versions supply hname, hsame]
    · rw [latest_version supply hname, latest_version supply hname, hsame]

/-- Two versions of one document with a comment and its resolution between them, a version of
another document, and a comparison that fails. -/
def planRequests : List Request :=
  let supply (n : Nat) : String := (Ident.ofSupply n).text
  [⟨.text "plan", ⟨0, none⟩, .create (.text "one\n") (.text "ann") (.text "first")⟩,
    ⟨.text "plan", ⟨1, none⟩, .comment (supply 1) (.text "why?") (.text "bob")⟩,
    ⟨.text "notes", ⟨2, none⟩, .create (.text "") (.text "bob") (.text "")⟩,
    ⟨.text "plan", ⟨3, none⟩, .resolve (supply 1) (supply 2) (.text "ann")⟩,
    ⟨.text "plan", ⟨4, none⟩, .create (.text "one\ntwo\n") (.text "bob") (.text "second")⟩,
    ⟨.text "plan", ⟨5, none⟩, .compare (supply 1) (supply 4)⟩,
    ⟨.list [], ⟨6, none⟩, .create (.text "lost") (.text "eve") (.text "")⟩]

section

open scoped Halves.Plain

/-- The plan has its two versions, which the list shows with their lengths, and which the notes do
not have.  The latest of them is shown with its content. -/
theorem plan_lists_two_versions :
    let supply := fun n => (Ident.ofSupply n).text
    let books := (run supply planRequests {}).1
    let log := created "plan" (run supply planRequests {}).2
    Fresh supply books.taken ∧
    log.map (fun v => (v.id, textLength v.content)) = [(supply 1, 4), (supply 4, 8)] ∧
    (books.answer supply ⟨.text "plan", ⟨7, none⟩, .versions⟩).2 =
      .ok (.list (log.map fun v => v.summary (textLength v.content))) ∧
    (books.answer supply ⟨.text "plan", ⟨7, none⟩, .latest⟩).2 =
      .ok (.record [("document_id", .text "plan"), ("version_id", .text (supply 4)),
        ("content", .text "one\ntwo\n"), ("author", .text "bob"),
        ("timestamp", .text (Stamp.text ⟨4, none⟩)), ("message", .text "second")]) ∧
    ∀ v ∈ log, books.archive.version? "notes" v.id = none := by
  intro supply books log
  have hfresh : Fresh supply books.taken := by decide +kernel
  have htext : ∀ v ∈ log, v.content.text?.isSome = true := by decide +kernel
  obtain ⟨hanswers, hfound, -⟩ := history_is_log_of_creations supply planRequests hfresh "plan"
  obtain ⟨-, hlisted, hlatest, -⟩ := hanswers (.text "plan") ⟨7, none⟩ rfl
  have hlast : log.getLast?.map (fun v =>
        (v.id, v.content.text?, v.author.text?, v.time, v.message.text?)) =
      some (supply 4, some "one\ntwo\n", some "bob", ⟨4, none⟩, some "second") := by decide +kernel
  refine ⟨hfresh, by decide +kernel, hlisted fun v hv => ?_, ?_, ?_⟩
  · exact exists_text_of_isSome (htext v hv)
  · obtain ⟨v, hv, hshown⟩ := Option.map_eq_some_iff.mp hlast
    simp only [Prod.mk.injEq] at hshown
    obtain ⟨hid, hcontent, hauthor, htime, hmessage⟩ := hshown
    rw [hlatest, hv, Option.map_some, Option.getD_some, Version.page, hid, htime,
      eq_text_of_text? hcontent, eq_text_of_text? hauthor, eq_text_of_text? hmessage]
  · exact fun v hv => (hfound v hv).2 "notes" (by decide)

end

end Scriptorium.History
