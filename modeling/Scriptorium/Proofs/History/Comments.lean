import Scriptorium.Proofs.History.Transcript
set_option autoImplicit false

/-!
# The comments on a version as a log

After every run from an empty archive the comments on a version are the log of the requests that
made them.  A comment is resolved if and only if a request has resolved it, and then by the author
and at the time of the last such request.
-/

namespace Scriptorium.History

/-! ## What the answers show -/

/-- A comment as the list of its version shows it. -/
def Comment.listed (c : Comment) (resolved : Bool) : Value :=
  .record [("comment_id", .text c.id), ("content", c.content), ("author", c.author),
    ("timestamp", .text c.time.text), ("resolved", .bool resolved)]

/-- A comment as it is stored: it says by whom and when it was resolved if it was. -/
def Comment.recorded (c : Comment) (resolution : Option Resolution) : Value :=
  .record ([("comment_id", .text c.id), ("content", c.content), ("author", c.author),
    ("timestamp", .text c.time.text), ("resolved", .bool resolution.isSome),
    ("replies", .list [])] ++
    resolution.toList.flatMap fun r =>
      [("resolved_by", r.author), ("resolved_at", .text r.time.text)])

theorem Comment.toValue_after [Halves] (d v : String) (t : List Exchange) (c : Comment) :
    (c.after d v t).toValue = c.listed (!(resolutions d v c.id t).isEmpty) := by
  have hsome : (resolutions d v c.id t).getLast?.isSome = !(resolutions d v c.id t).isEmpty := by
    cases resolutions d v c.id t <;> simp
  simp only [Comment.after, Comment.toValue, Comment.listed, hsome]

theorem Comment.stored_after [Halves] (d v : String) (t : List Exchange) (c : Comment) :
    (c.after d v t).stored = c.recorded (resolutions d v c.id t).getLast? := by
  simp only [Comment.after, Comment.stored, Comment.recorded]
  cases (resolutions d v c.id t).getLast? <;> rfl

namespace Kept

variable {supply : Nat → String} {books : Books} {t : List Exchange} {document : Value} {d : String}

theorem listed_comments [Halves] (h : Kept supply books t) (hname : documentName document = .ok d)
    (now : Stamp) (v : String) :
    (books.answer supply ⟨document, now, .comments v⟩).2 =
      .ok (.list ((remarks d v t).map fun c =>
        c.listed (!(resolutions d v c.id t).isEmpty))) := by
  rw [Books.answer_of_name hname]
  simp only [Books.fulfil, h.comments, commentsAfter, List.map_map, Function.comp_def,
    Comment.toValue_after]

theorem stored_comments [Halves] (h : Kept supply books t) (hname : documentName document = .ok d)
    (now : Stamp) {v : String} (hv : v ∈ (created d t).map (·.id)) :
    (books.answer supply ⟨document, now, .storedComments v⟩).2 =
      .ok (.list ((remarks d v t).map fun c =>
        c.recorded (resolutions d v c.id t).getLast?)) := by
  have hthere : books.archive.version? d v ≠ none := h.version?_ne_none_iff.mpr hv
  rw [Books.answer_of_name hname]
  simp only [Books.fulfil, Archive.storedComments_of_version? hname hthere, h.comments,
    commentsAfter, Functor.map, Except.map, List.map_map, Function.comp_def, Comment.stored_after]

/-- A request to resolve a comment succeeds if and only if the comment was made on the version. -/
theorem resolve_answer [Halves] (h : Kept supply books t) (hname : documentName document = .ok d)
    (now : Stamp) (v c : String) (author : Value) :
    (books.answer supply ⟨document, now, .resolve v c author⟩).2 =
        .ok (.bool (decide (c ∈ (remarks d v t).map (·.id)))) ∧
      (c ∉ (remarks d v t).map (·.id) →
        (books.answer supply ⟨document, now, .resolve v c author⟩).1 = books) := by
  rw [Books.answer_of_name hname]
  simp only [Books.fulfil, Archive.resolve, h.comments, any_id_commentsAfter_iff]
  split
  · rename_i hmem
    exact ⟨by simp [hmem], fun hnot => absurd hmem hnot⟩
  · rename_i hnot
    exact ⟨by simp [hnot], fun _ => rfl⟩

end Kept

/-- What was resolved stays resolved. -/
theorem resolutions_run_append [Halves] (supply : Nat → String) (requests more : List Request)
    {d v c : String} (h : resolutions d v c (run supply requests {}).2 ≠ []) :
    resolutions d v c (run supply (requests ++ more) {}).2 ≠ [] := by
  rw [run, Transcript.run_append, resolutions, List.filterMap_append]
  exact List.append_ne_nil_of_left_ne_nil h _

/-! ## The comments after a run -/

/-- For every version of every document and after every run whose identifiers are fresh, the
comments on the version are the log of the requests that made them, with the identifiers that were
answered and each once.  A comment is shown as resolved if and only if a request has resolved it,
and stays so whatever follows; its record names author and time of the last such request, and
neither if there was none.  A request to resolve a comment succeeds if and only if the comment is
one of this version of this document, and otherwise changes nothing. -/
theorem comments_are_log_of_remarks [Halves] (supply : Nat → String) (requests : List Request)
    (hfresh : Fresh supply (run supply requests {}).1.taken) (d v : String) :
    let books := (run supply requests {}).1
    let t := (run supply requests {}).2
    let made := remarks d v t
    (made.map (·.id)).Nodup ∧
    (made ≠ [] → v ∈ (created d t).map (·.id)) ∧
    (∀ document now, documentName document = .ok d →
      (books.answer supply ⟨document, now, .comments v⟩).2 =
        .ok (.list (made.map fun c => c.listed (!(resolutions d v c.id t).isEmpty))) ∧
      (v ∈ (created d t).map (·.id) →
        (books.answer supply ⟨document, now, .storedComments v⟩).2 =
          .ok (.list (made.map fun c => c.recorded (resolutions d v c.id t).getLast?))) ∧
      ∀ c author,
        (books.answer supply ⟨document, now, .resolve v c author⟩).2 =
          .ok (.bool (decide (c ∈ made.map (·.id)))) ∧
        (c ∉ made.map (·.id) →
          (books.answer supply ⟨document, now, .resolve v c author⟩).1 = books)) ∧
    (∀ more c, resolutions d v c t ≠ [] →
      resolutions d v c (run supply (requests ++ more) {}).2 ≠ []) := by
  intro books t made
  have h : Kept supply books t := kept_after_run requests hfresh
  refine ⟨?_, h.remarked d v, ?_, ?_⟩
  · exact (h.nodup_identifiers hfresh).sublist (Kept.remarks_sublist d v t)
  · intro document now hname
    exact ⟨h.listed_comments hname now v, h.stored_comments hname now,
      h.resolve_answer hname now v⟩
  · exact fun more c => resolutions_run_append supply requests more

/-- Two comments on a version of the plan; the first is resolved twice, and the second is looked for
under a version that does not have it. -/
def reviewRequests : List Request :=
  let supply (n : Nat) : String := (Ident.ofSupply n).text
  [⟨.text "plan", ⟨0, none⟩, .create (.text "one\n") (.text "ann") (.text "")⟩,
    ⟨.text "plan", ⟨1, none⟩, .comment (supply 1) (.text "why?") (.text "bob")⟩,
    ⟨.text "plan", ⟨2, none⟩, .comment (supply 1) (.text "and how?") (.text "eve")⟩,
    ⟨.text "plan", ⟨3, none⟩, .resolve (supply 1) (supply 2) (.text "ann")⟩,
    ⟨.text "plan", ⟨4, none⟩, .resolve (supply 2) (supply 3) (.text "ann")⟩,
    ⟨.text "plan", ⟨5, none⟩, .resolve (supply 1) (supply 2) (.text "bob")⟩]

section

open scoped Halves.Plain

/-- Both comments are stored in order, the first with its second resolution, the second open. -/
theorem review_stored_as_last_resolved :
    let supply := fun n => (Ident.ofSupply n).text
    let books := (run supply reviewRequests {}).1
    let t := (run supply reviewRequests {}).2
    let made := remarks "plan" (supply 1) t
    Fresh supply books.taken ∧
    made.map (fun c => (c.id, (resolutions "plan" (supply 1) c.id t).getLast?.map (·.time))) =
      [(supply 2, some ⟨5, none⟩), (supply 3, none)] ∧
    (books.answer supply ⟨.text "plan", ⟨6, none⟩, .storedComments (supply 1)⟩).2 =
      .ok (.list (made.map fun c =>
        c.recorded (resolutions "plan" (supply 1) c.id t).getLast?)) := by
  intro supply books t made
  have hfresh : Fresh supply books.taken := by decide +kernel
  have hversion : supply 1 ∈ (created "plan" t).map (·.id) := by decide +kernel
  obtain ⟨-, -, hanswers, -⟩ :=
    comments_are_log_of_remarks supply reviewRequests hfresh "plan" (supply 1)
  exact ⟨hfresh, by decide +kernel, (hanswers (.text "plan") ⟨6, none⟩ rfl).2.1 hversion⟩

end

end Scriptorium.History
