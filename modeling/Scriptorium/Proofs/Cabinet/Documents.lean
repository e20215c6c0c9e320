import Scriptorium.Proofs.Cabinet.Transcript
set_option autoImplicit false

/-!
# The documents of a cabinet after a run

Documents keep the time of their making and have the time of their last writing, which is not
earlier if the clock never goes back.  A document that was removed is not found again.  The
documents of a project are listed as they are, in the order of their making and each once, wherever
they were filed before.
-/

namespace Scriptorium

/-- When a stamp is: microseconds in universal time. -/
def Stamp.instant (s : Stamp) : Int := s.micros - s.zone.getD 0 * 60000000

namespace Cabinet

open History (Fresh)

/-! ## Times -/

/-- The clock of some errands never goes back. -/
def OnTime (errands : List Errand) : Prop :=
  errands.Pairwise fun a b => a.now.instant ≤ b.now.instant

instance (errands : List Errand) : Decidable (OnTime errands) :=
  inferInstanceAs (Decidable (List.Pairwise _ _))

theorem instant_le_of_getLast? {t : List Exchange}
    (h : t.Pairwise fun a b => a.now.instant ≤ b.now.instant) {x last : Exchange} (hx : x ∈ t)
    (hlast : t.getLast? = some last) : x.now.instant ≤ last.now.instant := by
  obtain ⟨init, rfl⟩ := List.getLast?_eq_some_iff.mp hlast
  rw [List.pairwise_append] at h
  rcases List.mem_append.mp hx with hbefore | hat
  · exact h.2.2 x hbefore last List.mem_cons_self
  · obtain rfl := List.mem_singleton.mp hat
    exact Int.le_refl _

theorem pairwise_run [Halves] {supply : Nat → String} {errands : List Errand} (h : OnTime errands)
    (registry : Registry) :
    (run supply errands registry).2.Pairwise fun a b => a.now.instant ≤ b.now.instant := by
  have herrands : (run supply errands registry).2.map (·.toErrand) = errands :=
    Transcript.map_run (fun _ _ => rfl) errands registry
  rw [OnTime, ← herrands, List.pairwise_map] at h
  exact h

/-! ## What becomes of a document -/

section Document

variable {t : List Exchange} {id : String} {d : Document}

/-- The exchange that made a document is one of those that wrote to it. -/
theorem mem_writings_of_making? {x : Exchange} (h : making? t id = some x) : x ∈ writings t id := by
  have hmade : x.made? = some id := by simpa using List.find?_some h
  refine List.mem_filter.mpr ⟨List.mem_of_find?_eq_some h, ?_⟩
  rw [Exchange.written?_of_made? hmade]
  exact beq_self_eq_true _

theorem of_documentAfter [Halves] (h : documentAfter t id = some d) :
    d.id = id ∧ (∃ x, making? t id = some x ∧ d.createdAt = x.now) ∧
      ∃ x, (writings t id).getLast? = some x ∧ d.updatedAt = x.now ∧
        x.wish.draft? = some d.toDraft := by
  unfold documentAfter at h
  split at h
  · cases h
  · obtain ⟨first, hfirst, hrest⟩ := Option.bind_eq_some_iff.mp h
    obtain ⟨last, hlast, hrest⟩ := Option.bind_eq_some_iff.mp hrest
    obtain ⟨draft, hdraft, hdocument⟩ := Option.bind_eq_some_iff.mp hrest
    obtain rfl := Option.some.inj hdocument
    exact ⟨rfl, ⟨first, hfirst, rfl⟩, last, hlast, rfl, hdraft⟩

/-- No document is written to before it is made. -/
theorem createdAt_le_updatedAt [Halves]
    (hclock : t.Pairwise fun a b => a.now.instant ≤ b.now.instant)
    (h : documentAfter t id = some d) : d.createdAt.instant ≤ d.updatedAt.instant := by
  obtain ⟨-, ⟨first, hfirst, hcreated⟩, last, hlast, hupdated, -⟩ := of_documentAfter h
  rw [hcreated, hupdated]
  exact instant_le_of_getLast? (hclock.sublist List.filter_sublist)
    (mem_writings_of_making? hfirst) hlast

/-- A document is there if it was made and not removed, and only then. -/
theorem documentAfter_isSome_iff [Halves]
    (hdrafted : ∀ x ∈ t, x.written?.isSome → x.wish.draft?.isSome) :
    (documentAfter t id).isSome ↔ id ∈ made t ∧ id ∉ removed t := by
  unfold documentAfter
  by_cases hremoved : id ∈ removed t
  · simp [hremoved]
  · rw [if_neg hremoved, and_iff_left hremoved]
    constructor
    · intro hsome
      refine Classical.byContradiction fun hmade => ?_
      rw [making?_eq_none hmade] at hsome
      cases hsome
    · intro hmade
      obtain ⟨x, hx, hid⟩ := List.mem_filterMap.mp hmade
      obtain ⟨first, hfirst⟩ : ∃ first, making? t id = some first := by
        refine Option.isSome_iff_exists.mp (List.find?_isSome.mpr ⟨x, hx, ?_⟩)
        rw [hid]
        exact beq_self_eq_true _
      obtain ⟨last, hlast⟩ : ∃ last, (writings t id).getLast? = some last := by
        refine Option.ne_none_iff_exists'.mp ?_
        rw [ne_eq, List.getLast?_eq_none_iff]
        exact List.ne_nil_of_mem (mem_writings_of_making? hfirst)
      obtain ⟨hmem, hwritten⟩ := List.mem_filter.mp (List.mem_of_getLast? hlast)
      obtain ⟨draft, hdraft⟩ := Option.isSome_iff_exists.mp
        (hdrafted last hmem (by rw [eq_of_beq hwritten]; rfl))
      rw [hfirst, hlast]
      simp [hdraft]

end Document

/-! ## Lists of documents -/

/-- A document is wanted for a list: it is of the project, and of the type if one is named. -/
def isWanted (projectId : String) (docType : Option String) (d : Document) : Bool :=
  d.projectId = projectId && (docType.all fun type => type.isEmpty || d.docType = type)

theorem ofProject_eq_filter (cabinet : Cabinet) (projectId : String) (docType : Option String) :
    cabinet.ofProject projectId docType =
      (cabinet.map (·.2)).filter (isWanted projectId docType) := by
  cases docType with
  | none =>
      refine List.filter_congr ?_
      intro d _
      simp [isWanted]
  | some type =>
      unfold ofProject
      dsimp only
      split
      · rename_i hempty
        refine List.filter_congr ?_
        intro d _
        simp [isWanted, hempty]
      · rename_i hnamed
        rw [List.filter_filter]
        refine List.filter_congr ?_
        intro d _
        simp [isWanted, hnamed, Bool.and_comm]

theorem isWanted_iff {projectId : String} {docType : Option String} {d : Document} :
    isWanted projectId docType d = true ↔
      d.projectId = projectId ∧ ∀ type, docType = some type → type ≠ "" → d.docType = type := by
  cases docType with
  | none => simp [isWanted]
  | some type =>
      simp [isWanted, Classical.or_iff_not_imp_left]

/-- The documents that are listed stand in the order of their making. -/
theorem map_id_ofProject_sublist {cabinet : Cabinet} (h : ∀ entry ∈ cabinet, entry.2.id = entry.1)
    (projectId : String) (docType : Option String) :
    ((cabinet.ofProject projectId docType).map (·.id)).Sublist (Fields.names cabinet) := by
  have hids : (cabinet.map (·.2)).map (·.id) = Fields.names cabinet := by
    rw [List.map_map]
    exact List.map_congr_left h
  rw [ofProject_eq_filter, ← hids]
  exact List.filter_sublist.map _

theorem mem_ofProject_iff {cabinet : Cabinet} (h : ∀ entry ∈ cabinet, entry.2.id = entry.1)
    (hnodup : (Fields.names cabinet).Nodup) {projectId : String} {docType : Option String}
    {d : Document} :
    d ∈ cabinet.ofProject projectId docType ↔
      cabinet.get d.id = .ok d ∧ isWanted projectId docType d = true := by
  have hstored : d ∈ cabinet.map (·.2) ↔ cabinet.get d.id = .ok d := by
    rw [get_eq_ok_iff, Fields.get?_eq_some_iff_mem hnodup]
    constructor
    · intro hmem
      obtain ⟨⟨key, d'⟩, hentry, rfl⟩ := List.mem_map.mp hmem
      have hkey : d'.id = key := h _ hentry
      rwa [hkey]
    · intro hentry
      exact List.mem_map.mpr ⟨(d.id, d), hentry, rfl⟩
  rw [ofProject_eq_filter, List.mem_filter, hstored]

/-! ## Runs -/

/-- After every run from an empty cabinet, with identifiers that do not repeat and a clock that does
not go back: every document is kept under its identifier, with the time of the exchange that made it
and the time and the draft of the last one that wrote to it, which is not earlier; a wish for a new
document makes one if there is something to write; a document is found if and only if it was made
and not removed; one that was removed is not found after any further errands; and the documents of a
project are listed in the order of their making, each once and just those that are there and are of
the project, and of the type if one is named. -/
theorem documents_follow_transcript [Halves] {supply : Nat → String} {start : Nat}
    {errands : List Errand}
    (hfresh : Fresh supply (run supply errands ⟨[], start⟩).1.taken) (hclock : OnTime errands) :
    let registry := (run supply errands ⟨[], start⟩).1
    let t := (run supply errands ⟨[], start⟩).2
    (∀ key d, (key, d) ∈ registry.cabinet →
      d.id = key ∧
      (∃ x, making? t key = some x ∧ d.createdAt = x.now) ∧
      (∃ x, (writings t key).getLast? = some x ∧ d.updatedAt = x.now ∧
        x.wish.draft? = some d.toDraft) ∧
      d.createdAt.instant ≤ d.updatedAt.instant) ∧
    (∀ x ∈ t, x.wish.isNew = true → (x.made?.isSome ↔ x.wish.draft?.isSome)) ∧
    (∀ id, (∃ d, registry.cabinet.get id = .ok d) ↔ id ∈ made t ∧ id ∉ removed t) ∧
    (∀ id ∈ removed t, ∀ more, Fresh supply (run supply (errands ++ more) ⟨[], start⟩).1.taken →
      (run supply (errands ++ more) ⟨[], start⟩).1.cabinet.get id = .error notFound) ∧
    (made t).Nodup ∧
    ∀ projectId docType now, ∃ docs : List Document,
      registry.answer supply now (.ofProject projectId docType) =
        (registry, .ok (.list (docs.map Document.toValue))) ∧
      (docs.map (·.id)).Sublist (made t) ∧
      ∀ d, d ∈ docs ↔ registry.cabinet.get d.id = .ok d ∧ d.projectId = projectId ∧
        ∀ type, docType = some type → type ≠ "" → d.docType = type := by
  intro registry t
  have hkept : Kept supply start registry t := (Kept.empty supply start).run errands hfresh
  have hnodup : (made t).Nodup := hkept.nodup_made hfresh
  have hentries : ∀ entry ∈ registry.cabinet, documentAfter t entry.1 = some entry.2 := by
    intro entry hentry
    rw [hkept.cabinet] at hentry
    exact (mem_entries_iff.mp hentry).2
  have hids : ∀ entry ∈ registry.cabinet, entry.2.id = entry.1 :=
    fun entry hentry => (of_documentAfter (hentries entry hentry)).1
  have hnames : (Fields.names registry.cabinet).Sublist (made t) := by
    rw [hkept.cabinet]
    exact names_entries_sublist _ _
  refine ⟨?_, ?_, ?_, ?_, hnodup, ?_⟩
  · intro key d hentry
    have hafter := hentries _ hentry
    obtain ⟨hid, hcreated, hupdated⟩ := of_documentAfter hafter
    exact ⟨hid, hcreated, hupdated, createdAt_le_updatedAt (pairwise_run hclock _) hafter⟩
  · intro x hx hnew
    obtain ⟨before, errand, rfl⟩ := Transcript.exists_step_of_mem_run hx
    exact made?_answer_iff supply before hnew
  · intro id
    rw [← documentAfter_isSome_iff hkept.drafted, ← hkept.get?_eq id, Option.isSome_iff_exists]
    simp only [get_eq_ok_iff]
  · intro id hremoved more hmore
    have hlater := (Kept.empty supply start).run (errands ++ more) hmore
    refine get_eq_error ((hlater.get?_eq id).trans (if_pos ?_))
    rw [List.nil_append, run, Transcript.run_append, removed, List.filterMap_append]
    exact List.mem_append_left _ hremoved
  · intro projectId docType now
    refine ⟨registry.cabinet.ofProject projectId docType, rfl,
      (map_id_ofProject_sublist hids projectId docType).trans hnames, ?_⟩
    intro d
    rw [mem_ofProject_iff hids (hnodup.sublist hnames), isWanted_iff]

/-! ### A document that moves and one that goes -/

/-- A note for a project. -/
def note (title projectId : String) : Draft := ⟨title, "", "srs", projectId, .null⟩

/-- Two documents are made for a project; the first one is moved to another project, the second one
is removed, and a third one is taken from a file. -/
def filing : List Errand :=
  [⟨Stamp.ofSeconds 0, .create (note "Plan" "apollo")⟩,
    ⟨Stamp.ofSeconds 1, .create (note "Risks" "apollo")⟩,
    ⟨Stamp.ofSeconds 2, .update "1" (note "Plan" "gemini")⟩,
    ⟨Stamp.ofSeconds 3, .delete "2"⟩,
    ⟨Stamp.ofSeconds 3, .importFile "Goals.md" [] "gemini" "srs"⟩]

section

open scoped Halves.Plain

/-- The document that is gone stays away, and the documents of the project in which the first one is
now are listed. -/
theorem filing_keeps_documents :
    Fresh Nat.repr (run Nat.repr filing {}).1.taken ∧ OnTime filing ∧
    (∀ more, Fresh Nat.repr (run Nat.repr (filing ++ more) {}).1.taken →
      (run Nat.repr (filing ++ more) {}).1.cabinet.get "2" = .error notFound) ∧
    ∃ docs : List Document,
      ((run Nat.repr filing {}).1.answer Nat.repr (Stamp.ofSeconds 4)
          (.ofProject "gemini" none)).2 =
        .ok (.list (docs.map Document.toValue)) ∧
      (docs.map (·.id)).Sublist ["1", "2", "3"] := by
  have hfresh : Fresh Nat.repr (run Nat.repr filing {}).1.taken := by decide +kernel
  have hclock : OnTime filing := by decide
  have hremoved : removed (run Nat.repr filing {}).2 = ["2"] := by decide +kernel
  have hmade : made (run Nat.repr filing {}).2 = ["1", "2", "3"] := by decide +kernel
  obtain ⟨-, -, -, hgone, -, hlist⟩ := documents_follow_transcript hfresh hclock
  obtain ⟨docs, hanswer, hsub, -⟩ := hlist "gemini" none (Stamp.ofSeconds 4)
  refine ⟨hfresh, hclock, hgone "2" (by rw [hremoved]; exact List.mem_cons_self), docs, ?_, ?_⟩
  · rw [hanswer]
  · rwa [hmade] at hsub

end

end Cabinet

end Scriptorium
