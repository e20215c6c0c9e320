import Scriptorium.History.Archive
import Scriptorium.History.Request
import Scriptorium.Proofs.Fields
import Scriptorium.Proofs.Transcript
set_option autoImplicit false

/-!
# What a run of requests leaves in the archive

A run is read from its transcript alone: which versions were made of a document, which comments
were made on a version, and which of them were resolved, by whom and when, are all functions of the
requests and their answers.  The main statement is `Kept.run`: after every run the archive holds
exactly what its transcript says.

The archive is seen through `Archive.versions`.  A version that is made goes last in its document;
a change reaches the version that has the identifier, and every other document stays as it is.
Where identifiers are not repeated, changing the first item of an identifier is changing every item
of that identifier, and this is how later proofs read a change.
-/

namespace Scriptorium.History.Archive

/-! ## Changing the first item -/

/-- Where no key is repeated, the first item of a key is the only one. -/
theorem changeFirst_eq_map {α : Type} (key : α → String) (k : String) (f : α → α) {xs : List α}
    (h : (xs.map key).Nodup) :
    changeFirst (key · == k) f xs = xs.map fun x => if key x = k then f x else x := by
  induction xs with
  | nil => rfl
  | cons x rest ih =>
      rw [List.map_cons, List.nodup_cons] at h
      by_cases hx : key x = k
      · have hrest : ∀ y ∈ rest, ¬ key y = k := by
          intro y hy hk
          exact h.1 (List.mem_map.mpr ⟨y, hy, hk.trans hx.symm⟩)
        have hsame : (rest.map fun y => if key y = k then f y else y) = rest :=
          (List.map_congr_left fun y hy => if_neg (hrest y hy)).trans (List.map_id' rest)
        simp [changeFirst, hx, hsame]
      · simp [changeFirst, hx, ih h.2]

/-! ## Versions of a document -/

theorem versions_create (archive : Archive) (document d : String) (v : Version) :
    (archive.create document v).versions d =
      archive.versions d ++ if d = document then [v] else [] := by
  unfold create versions versions?
  by_cases hd : d = document
  · subst hd
    simp [Fields.get?_put_self]
  · simp [Fields.get?_put_of_ne _ _ hd, hd]

theorem versions_changeVersion (archive : Archive) (document id d : String)
    (f : Version → Version) :
    (archive.changeVersion document id f).versions d =
      if d = document then changeFirst (·.id == id) f (archive.versions d)
      else archive.versions d := by
  unfold changeVersion
  cases hfound : archive.versions? document with
  | none =>
      by_cases hd : d = document
      · subst hd
        simp [versions, hfound, changeFirst]
      · simp [hd]
  | some kept =>
      unfold versions versions? at *
      by_cases hd : d = document
      · subst hd
        simp [Fields.get?_put_self, hfound]
      · simp [Fields.get?_put_of_ne _ _ hd, hd]

/-- A version is found if and only if the document has one of the identifier. -/
theorem version?_eq_none_iff (archive : Archive) (d id : String) :
    archive.version? d id = none ↔ id ∉ (archive.versions d).map (·.id) := by
  simp [version?, List.find?_eq_none]

/-- A version that is found has the identifier and is one of the document's. -/
theorem of_version?_eq_some {archive : Archive} {d id : String} {v : Version}
    (h : archive.version? d id = some v) : v.id = id ∧ v ∈ archive.versions d := by
  unfold version? at h
  exact ⟨by simpa using List.find?_some h, List.mem_of_find?_eq_some h⟩

/-- The stored comments of a version that is found are its comments. -/
theorem storedComments_of_version? [Halves] {archive : Archive} {document : Value} {d id : String}
    (hname : documentName document = .ok d) (hthere : archive.version? d id ≠ none) :
    archive.storedComments document id = .ok (archive.comments d id) := by
  obtain ⟨v, hv⟩ := Option.ne_none_iff_exists'.mp hthere
  have hcomments : archive.comments d id = v.comments := by rw [comments, hv]; rfl
  rw [hcomments]
  unfold version? versions at hv
  cases hkept : archive.versions? d with
  | none => simp [hkept] at hv
  | some kept =>
      rw [hkept, Option.getD_some] at hv
      simp only [storedComments, hname, bind, Except.bind, hkept, hv]
      rfl

end Scriptorium.History.Archive

namespace Scriptorium.History

/-! ## Runs -/

/-- A request with what was answered. -/
structure Exchange where
  request : Request
  answer : Outcome Value

/-- Answers a request; gives the books after it and the exchange. -/
def Books.exchange [Halves] (supply : Nat → String) (books : Books) (request : Request) :
    Books × Exchange :=
  let after := books.answer supply request
  (after.1, ⟨request, after.2⟩)

/-- Answers requests one after the other; gives the books after them and the transcript. -/
def run [Halves] (supply : Nat → String) (requests : List Request) (books : Books) :
    Books × List Exchange :=
  Transcript.run (Books.exchange supply) requests books

/-- The first `n` identifiers of the supply are pairwise different. -/
def Fresh (supply : Nat → String) (n : Nat) : Prop := ((List.range' 1 n).map supply).Nodup

instance (supply : Nat → String) (n : Nat) : Decidable (Fresh supply n) :=
  inferInstanceAs (Decidable (List.Nodup _))

theorem Fresh.mono {supply : Nat → String} {m n : Nat} (h : Fresh supply n) (hle : m ≤ n) :
    Fresh supply m :=
  h.sublist ((List.range'_sublist_right.mpr hle).map supply)

/-! ## Reading a transcript -/

/-- The name of the document that a request is about. -/
def Request.name? [Halves] (r : Request) : Option String := (documentName r.document).toOption

/-- What a request gave, if it gave something. -/
def Exchange.result? (x : Exchange) : Option Value :=
  match x.answer with
  | .ok .null => none
  | .ok reply => some reply
  | .error _ => none

/-- The identifier in an answer. -/
def identifierIn (field : String) (reply : Value) : String :=
  ((reply.field? field).bind Value.text?).getD ""

/-- The version of a document that an exchange made, without comments. -/
def Exchange.creation? [Halves] (d : String) (x : Exchange) : Option Version :=
  match x.request.wish with
  | .create content author message =>
      if x.request.name? = some d then
        some ⟨(x.result?.map (identifierIn "version_id")).getD "", content, author, x.request.now,
          message, []⟩
      else none
  | _ => none

/-- The comment on a version that an exchange made, not resolved. -/
def Exchange.remark? [Halves] (d v : String) (x : Exchange) : Option Comment :=
  match x.request.wish, x.result? with
  | .comment version content author, some reply =>
      if x.request.name? = some d ∧ version = v then
        some ⟨identifierIn "comment_id" reply, content, author, x.request.now, none⟩
      else none
  | _, _ => none

/-- How an exchange resolved a comment. -/
def Exchange.resolution? [Halves] (d v c : String) (x : Exchange) : Option Resolution :=
  match x.request.wish, x.answer with
  | .resolve version comment author, .ok (.bool true) =>
      if x.request.name? = some d ∧ version = v ∧ comment = c then some ⟨author, x.request.now⟩
      else none
  | _, _ => none

/-- The identifier that an exchange took from the supply. -/
def Exchange.identifier? (x : Exchange) : Option String :=
  match x.request.wish, x.result? with
  | .create _ _ _, some reply => some (identifierIn "version_id" reply)
  | .comment _ _ _, some reply => some (identifierIn "comment_id" reply)
  | _, _ => none

/-- The versions made of a document, in order and without comments. -/
def created [Halves] (d : String) (t : List Exchange) : List Version := t.filterMap (·.creation? d)

/-- The comments made on a version, in order and not resolved. -/
def remarks [Halves] (d v : String) (t : List Exchange) : List Comment :=
  t.filterMap (·.remark? d v)

/-- How a comment was resolved, each time that it was. -/
def resolutions [Halves] (d v c : String) (t : List Exchange) : List Resolution :=
  t.filterMap (·.resolution? d v c)

/-- The identifiers taken from the supply. -/
def identifiers (t : List Exchange) : List String := t.filterMap (·.identifier?)

/-- A comment as its last resolution leaves it. -/
def Comment.after [Halves] (d v : String) (t : List Exchange) (c : Comment) : Comment :=
  { c with resolution := (resolutions d v c.id t).getLast? }

/-- The comments on a version as a transcript leaves them. -/
def commentsAfter [Halves] (d v : String) (t : List Exchange) : List Comment :=
  (remarks d v t).map (Comment.after d v t)

/-- A version as a transcript leaves it. -/
def Version.after [Halves] (d : String) (t : List Exchange) (v : Version) : Version :=
  { v with comments := commentsAfter d v.id t }

/-- The versions of a document as a transcript leaves them. -/
def versionsAfter [Halves] (d : String) (t : List Exchange) : List Version :=
  (created d t).map (Version.after d t)

section Snoc

variable (d v c : String) (t : List Exchange) (x : Exchange)

theorem created_snoc [Halves] : created d (t ++ [x]) = created d t ++ (x.creation? d).toList := by
  cases h : x.creation? d <;> simp [created, h]

theorem remarks_snoc [Halves] :
    remarks d v (t ++ [x]) = remarks d v t ++ (x.remark? d v).toList := by
  cases h : x.remark? d v <;> simp [remarks, h]

theorem resolutions_snoc [Halves] :
    resolutions d v c (t ++ [x]) = resolutions d v c t ++ (x.resolution? d v c).toList := by
  cases h : x.resolution? d v c <;> simp [resolutions, h]

theorem identifiers_snoc : identifiers (t ++ [x]) = identifiers t ++ x.identifier?.toList := by
  cases h : x.identifier? <;> simp [identifiers, h]

end Snoc

/-! ## The books agree with the transcript -/

/-- The books hold what the transcript says.  Every version took its identifier from the supply,
comments are on versions that were made, and what was resolved is a comment that was made. -/
structure Kept [Halves] (supply : Nat → String) (books : Books) (t : List Exchange) : Prop where
  versions : ∀ d, books.archive.versions d = versionsAfter d t
  identifiers : identifiers t = (List.range' 1 books.taken).map supply
  numbered : ∀ d, ∀ x ∈ t, ∀ v, x.creation? d = some v → x.identifier? = some v.id
  remarked : ∀ d v, remarks d v t ≠ [] → v ∈ (created d t).map (·.id)
  resolved : ∀ d v c, resolutions d v c t ≠ [] → c ∈ (remarks d v t).map (·.id)

theorem map_id_versionsAfter [Halves] (d : String) (t : List Exchange) :
    (versionsAfter d t).map (·.id) = (created d t).map (·.id) := by
  simp [versionsAfter, Version.after]

theorem map_id_commentsAfter [Halves] (d v : String) (t : List Exchange) :
    (commentsAfter d v t).map (·.id) = (remarks d v t).map (·.id) := by
  simp [commentsAfter, Comment.after]

theorem any_id_commentsAfter_iff [Halves] (d v c : String) (t : List Exchange) :
    (commentsAfter d v t).any (·.id == c) = true ↔ c ∈ (remarks d v t).map (·.id) := by
  rw [← map_id_commentsAfter]
  simp only [List.any_eq_true, beq_iff_eq, List.mem_map]

/-- What is read from some items by one reader is part of what is read from them by another that
reads at least as much. -/
theorem map_filterMap_sublist {α β γ : Type} {f : α → Option β} {g : α → Option γ} (key : β → γ)
    {items : List α} (h : ∀ x ∈ items, ∀ b, f x = some b → g x = some (key b)) :
    ((items.filterMap f).map key).Sublist (items.filterMap g) := by
  induction items with
  | nil => exact .slnil
  | cons x rest ih =>
      rw [List.forall_mem_cons] at h
      have hrest := ih h.2
      cases hf : f x with
      | some b =>
          rw [List.filterMap_cons_some hf, List.filterMap_cons_some (h.1 b hf), List.map_cons]
          exact hrest.cons_cons _
      | none =>
          rw [List.filterMap_cons_none hf]
          cases hg : g x with
          | none => rwa [List.filterMap_cons_none hg]
          | some c =>
              rw [List.filterMap_cons_some hg]
              exact hrest.cons c

/-- Where a reader never repeats itself, what it reads tells from which item. -/
theorem eq_of_nodup_filterMap {α β : Type} {f : α → Option β} {items : List α}
    (h : (items.filterMap f).Nodup) {x y : α} {b : β} (hx : x ∈ items) (hy : y ∈ items)
    (hfx : f x = some b) (hfy : f y = some b) : x = y := by
  induction items with
  | nil => exact absurd hx List.not_mem_nil
  | cons head rest ih =>
      have hrest : ∀ z ∈ rest, f z = some b → b ∈ rest.filterMap f :=
        fun z hz hfz => List.mem_filterMap.mpr ⟨z, hz, hfz⟩
      rcases List.mem_cons.mp hx with rfl | hx' <;> rcases List.mem_cons.mp hy with rfl | hy'
      · rfl
      · rw [List.filterMap_cons_some hfx, List.nodup_cons] at h
        exact absurd (hrest y hy' hfy) h.1
      · rw [List.filterMap_cons_some hfy, List.nodup_cons] at h
        exact absurd (hrest x hx' hfx) h.1
      · exact ih (h.sublist ((List.sublist_cons_self head rest).filterMap f)) hx' hy'

theorem Exchange.identifier?_of_remark? [Halves] {d v : String} {x : Exchange} {c : Comment}
    (h : x.remark? d v = some c) : x.identifier? = some c.id := by
  unfold remark? at h
  unfold identifier?
  split at h
  · rename_i hwish hresult
    split at h
    · rw [hwish, hresult]
      simp only [← Option.some.inj h]
    · simp at h
  · simp at h

namespace Kept

variable {supply : Nat → String} {books : Books} {t : List Exchange}

theorem empty [Halves] (supply : Nat → String) : Kept supply {} [] where
  versions _ := rfl
  identifiers := rfl
  numbered _ _ hx := absurd hx List.not_mem_nil
  remarked _ _ h := absurd rfl h
  resolved _ _ _ h := absurd rfl h

theorem nodup_identifiers [Halves] (h : Kept supply books t) (hfresh : Fresh supply books.taken) :
    (History.identifiers t).Nodup := by
  rw [h.identifiers]
  exact hfresh

theorem created_sublist [Halves] (h : Kept supply books t) (d : String) :
    ((created d t).map (·.id)).Sublist (History.identifiers t) :=
  map_filterMap_sublist Version.id (h.numbered d)

theorem remarks_sublist [Halves] (d v : String) (t : List Exchange) :
    ((remarks d v t).map (·.id)).Sublist (History.identifiers t) :=
  map_filterMap_sublist Comment.id fun _ _ _ => Exchange.identifier?_of_remark?

/-- The next identifier of the supply has not been taken. -/
theorem next_not_mem [Halves] (h : Kept supply books t) (hfresh : Fresh supply (books.taken + 1)) :
    supply (books.taken + 1) ∉ History.identifiers t := by
  rw [h.identifiers]
  unfold Fresh at hfresh
  rw [List.range'_concat, List.map_append, List.nodup_append] at hfresh
  intro hmem
  exact hfresh.2.2 _ hmem (supply (books.taken + 1)) (by simp [Nat.add_comm]) rfl

/-- A version is found if and only if it was made of the document. -/
theorem version?_ne_none_iff [Halves] (h : Kept supply books t) {d v : String} :
    books.archive.version? d v ≠ none ↔ v ∈ (created d t).map (·.id) := by
  rw [ne_eq, Archive.version?_eq_none_iff, Classical.not_not, h.versions, map_id_versionsAfter]

/-- The comments on a version are those of the transcript, whether or not the version is there. -/
theorem comments [Halves] (h : Kept supply books t) (d v : String) :
    books.archive.comments d v = commentsAfter d v t := by
  unfold Archive.comments
  cases hfound : books.archive.version? d v with
  | some version =>
      obtain ⟨hid, hmem⟩ := Archive.of_version?_eq_some hfound
      rw [h.versions] at hmem
      obtain ⟨made, -, rfl⟩ := List.mem_map.mp hmem
      have hmade : made.id = v := hid
      simp [Version.after, hmade]
  | none =>
      rw [Archive.version?_eq_none_iff, h.versions, map_id_versionsAfter] at hfound
      have hnone : remarks d v t = [] :=
        Classical.byContradiction fun hsome => hfound (h.remarked d v hsome)
      simp [commentsAfter, hnone]

end Kept

/-! ## What one exchange adds -/

/-- What is read from an exchange. -/
structure Exchange.Reads [Halves] (x : Exchange) (creation : String → Option Version)
    (remark : String → String → Option Comment)
    (resolution : String → String → String → Option Resolution) (identifier : Option String) :
    Prop where
  creation : ∀ d, x.creation? d = creation d
  remark : ∀ d v, x.remark? d v = remark d v
  resolution : ∀ d v c, x.resolution? d v c = resolution d v c
  identifier : x.identifier? = identifier

/-- What is read from an exchange that made nothing and resolved nothing. -/
def Exchange.ReadsNothing [Halves] (x : Exchange) : Prop :=
  x.Reads (fun _ => none) (fun _ _ => none) (fun _ _ _ => none) none

namespace Exchange

variable {document : Value} {now : Stamp} {name : String}

theorem readsNothing_of_error [Halves] (request : Request) {fault : Fault}
    (hname : documentName request.document = .error fault) :
    ReadsNothing ⟨request, .error fault⟩ := by
  have hnone : request.name? = none := by rw [Request.name?, hname]; rfl
  constructor
  · intro d
    unfold creation?
    split <;> simp [hnone]
  · intro d v
    unfold remark?
    split <;> simp [hnone]
  · intro d v c
    unfold resolution?
    split <;> simp [hnone]
  · unfold identifier?
    split
    · simp_all [result?]
    · simp_all [result?]
    · rfl

theorem reads_create [Halves] (hname : documentName document = .ok name)
    (content author message : Value) (id : String) :
    let version : Version := ⟨id, content, author, now, message, []⟩
    Reads ⟨⟨document, now, .create content author message⟩, .ok (version.announced document)⟩
      (fun d => if d = name then some version else none) (fun _ _ => none) (fun _ _ _ => none)
      (some id) := by
  intro version
  have hid : identifierIn "version_id" (version.announced document) = id := by
    simp [identifierIn, Version.announced, Value.field?, Fields.get?, Value.text?, version]
  have hresult : result? ⟨⟨document, now, .create content author message⟩,
      .ok (version.announced document)⟩ = some (version.announced document) := rfl
  constructor
  · intro d
    unfold creation?
    rw [hresult]
    simp [Request.name?, hname, Except.toOption, hid, version, eq_comm]
  · exact fun _ _ => rfl
  · exact fun _ _ _ => rfl
  · unfold identifier?
    rw [hresult]
    simp only [hid]

theorem reads_comment [Halves] (hname : documentName document = .ok name) (version : String)
    (content author : Value) (id : String) :
    let comment : Comment := ⟨id, content, author, now, none⟩
    Reads ⟨⟨document, now, .comment version content author⟩, .ok comment.toValue⟩ (fun _ => none)
      (fun d v => if d = name ∧ v = version then some comment else none) (fun _ _ _ => none)
      (some id) := by
  intro comment
  have hid : identifierIn "comment_id" comment.toValue = id := by
    simp [identifierIn, Comment.toValue, Value.field?, Fields.get?, Value.text?, comment]
  have hresult : result? ⟨⟨document, now, .comment version content author⟩, .ok comment.toValue⟩ =
      some comment.toValue := rfl
  constructor
  · exact fun _ => rfl
  · intro d v
    unfold remark?
    rw [hresult]
    simp [Request.name?, hname, Except.toOption, hid, comment, eq_comm]
  · exact fun _ _ _ => rfl
  · unfold identifier?
    rw [hresult]
    simp only [hid]

theorem reads_resolve [Halves] (hname : documentName document = .ok name) (version comment : String)
    (author : Value) :
    Reads ⟨⟨document, now, .resolve version comment author⟩, .ok (.bool true)⟩ (fun _ => none)
      (fun _ _ => none)
      (fun d v c => if d = name ∧ v = version ∧ c = comment then some ⟨author, now⟩ else none)
      none := by
  constructor
  · exact fun _ => rfl
  · exact fun _ _ => rfl
  · intro d v c
    simp [resolution?, Request.name?, hname, Except.toOption, eq_comm]
  · rfl

end Exchange

theorem created_snoc_of_none [Halves] {d : String} {x : Exchange} (h : x.creation? d = none)
    (t : List Exchange) : created d (t ++ [x]) = created d t := by
  rw [created_snoc, h, Option.toList_none, List.append_nil]

theorem remarks_snoc_of_none [Halves] {d v : String} {x : Exchange} (h : x.remark? d v = none)
    (t : List Exchange) : remarks d v (t ++ [x]) = remarks d v t := by
  rw [remarks_snoc, h, Option.toList_none, List.append_nil]

theorem identifiers_snoc_of_none {x : Exchange} (h : x.identifier? = none) (t : List Exchange) :
    identifiers (t ++ [x]) = identifiers t := by
  rw [identifiers_snoc, h, Option.toList_none, List.append_nil]

section Unchanged

variable [Halves] {x : Exchange} (hresolution : ∀ d v c, x.resolution? d v c = none)

include hresolution

theorem resolutions_snoc_of_none (d v c : String) (t : List Exchange) :
    resolutions d v c (t ++ [x]) = resolutions d v c t := by
  rw [resolutions_snoc, hresolution, Option.toList_none, List.append_nil]

theorem Comment.after_snoc_of_none (d v : String) (t : List Exchange) :
    Comment.after d v (t ++ [x]) = Comment.after d v t :=
  funext fun c => by rw [Comment.after, Comment.after, resolutions_snoc_of_none hresolution]

theorem Version.after_snoc_of_none (hremark : ∀ d v, x.remark? d v = none) (d : String)
    (t : List Exchange) : Version.after d (t ++ [x]) = Version.after d t := by
  funext v
  rw [Version.after, Version.after, commentsAfter, commentsAfter,
    remarks_snoc_of_none (hremark d v.id), Comment.after_snoc_of_none hresolution]

end Unchanged

namespace Kept

variable {supply : Nat → String} {books : Books} {t : List Exchange} {x : Exchange}

/-- What an exchange made has the identifier that it took. -/
theorem numbered_snoc [Halves] (h : Kept supply books t)
    (hx : ∀ d v, x.creation? d = some v → x.identifier? = some v.id) (d : String) :
    ∀ y ∈ t ++ [x], ∀ v, y.creation? d = some v → y.identifier? = some v.id := by
  intro y hy v hv
  rcases List.mem_append.mp hy with hy | hy
  · exact h.numbered d y hy v hv
  · rw [List.mem_singleton.mp hy] at hv ⊢
    exact hx d v hv

/-- An exchange took the next identifier. -/
theorem identifiers_next [Halves] (h : Kept supply books t)
    (hx : x.identifier? = some (supply (books.taken + 1))) :
    History.identifiers (t ++ [x]) = (List.range' 1 (books.taken + 1)).map supply := by
  rw [identifiers_snoc, hx, h.identifiers, List.range'_concat]
  simp [Nat.add_comm]

/-- An exchange that made nothing and resolved nothing. -/
theorem idle [Halves] (h : Kept supply books t) (hx : x.ReadsNothing) :
    Kept supply books (t ++ [x]) := by
  have hcreated : ∀ d, created d (t ++ [x]) = created d t :=
    fun d => created_snoc_of_none (hx.creation d) t
  have hremarks : ∀ d v, remarks d v (t ++ [x]) = remarks d v t :=
    fun d v => remarks_snoc_of_none (hx.remark d v) t
  constructor
  · intro d
    rw [h.versions, versionsAfter, versionsAfter, hcreated,
      Version.after_snoc_of_none hx.resolution hx.remark]
  · rw [identifiers_snoc_of_none hx.identifier, h.identifiers]
  · exact h.numbered_snoc fun d v hv => by simp [hx.creation] at hv
  · intro d v
    rw [hremarks, hcreated]
    exact h.remarked d v
  · intro d v c
    rw [resolutions_snoc_of_none hx.resolution, hremarks]
    exact h.resolved d v c

/-- An exchange that made a version. -/
theorem create [Halves] (h : Kept supply books t) (hfresh : Fresh supply (books.taken + 1))
    {document : String} {version : Version} (hid : version.id = supply (books.taken + 1))
    (hnew : version.comments = [])
    (hx : x.Reads (fun d => if d = document then some version else none) (fun _ _ => none)
      (fun _ _ _ => none) (some version.id)) :
    Kept supply ⟨books.archive.create document version, books.taken + 1⟩ (t ++ [x]) := by
  have hcreated : ∀ d, created d (t ++ [x]) =
      created d t ++ if d = document then [version] else [] := fun d => by
    rw [created_snoc, hx.creation]
    split <;> rfl
  have hremarks : ∀ d v, remarks d v (t ++ [x]) = remarks d v t :=
    fun d v => remarks_snoc_of_none (hx.remark d v) t
  -- nobody can have commented on a version whose identifier was not taken yet
  have hsilent : version.after document t = version := by
    have hnone : remarks document version.id t = [] := by
      refine Classical.byContradiction fun hsome => h.next_not_mem hfresh ?_
      rw [← hid]
      exact (h.created_sublist document).subset (h.remarked document version.id hsome)
    rw [Version.after, commentsAfter, hnone, List.map_nil, ← hnew]
  constructor
  · intro d
    rw [Archive.versions_create, h.versions, versionsAfter, versionsAfter, hcreated,
      Version.after_snoc_of_none hx.resolution hx.remark, List.map_append]
    split
    · rename_i hd
      subst hd
      rw [List.map_singleton, hsilent]
    · rfl
  · exact h.identifiers_next (hid ▸ hx.identifier)
  · refine h.numbered_snoc fun d v hv => ?_
    rw [hx.creation] at hv
    split at hv
    · rw [hx.identifier, Option.some.inj hv]
    · simp at hv
  · intro d v hsome
    rw [hremarks] at hsome
    rw [hcreated, List.map_append]
    exact List.mem_append_left _ (h.remarked d v hsome)
  · intro d v c
    rw [resolutions_snoc_of_none hx.resolution, hremarks]
    exact h.resolved d v c

theorem nodup_versions [Halves] (h : Kept supply books t) (hfresh : Fresh supply books.taken)
    (d : String) :
    ((versionsAfter d t).map (·.id)).Nodup := by
  rw [map_id_versionsAfter]
  exact (h.nodup_identifiers hfresh).sublist (h.created_sublist d)

theorem nodup_comments [Halves] (h : Kept supply books t) (hfresh : Fresh supply books.taken)
    (d v : String) : ((commentsAfter d v t).map (·.id)).Nodup := by
  rw [map_id_commentsAfter]
  exact (h.nodup_identifiers hfresh).sublist (remarks_sublist d v t)

/-- A change of one version, seen in the versions of a document. -/
theorem changeVersion [Halves] (h : Kept supply books t) (hfresh : Fresh supply books.taken)
    (document id : String) (f : Version → Version)
    (hcreated : ∀ d, created d (t ++ [x]) = created d t)
    (hchange : ∀ d, ∀ v ∈ created d t, v.after d (t ++ [x]) =
      if d = document ∧ v.id = id then f (v.after d t) else v.after d t) (d : String) :
    (books.archive.changeVersion document id f).versions d = versionsAfter d (t ++ [x]) := by
  have hafter : versionsAfter d (t ++ [x]) = (created d t).map fun v =>
      if d = document ∧ v.id = id then f (v.after d t) else v.after d t := by
    rw [versionsAfter, hcreated]
    exact List.map_congr_left (hchange d)
  rw [Archive.versions_changeVersion, h.versions, hafter]
  split
  · rename_i hd
    rw [Archive.changeFirst_eq_map Version.id id f (h.nodup_versions hfresh d), versionsAfter,
      List.map_map]
    refine List.map_congr_left fun v _ => ?_
    by_cases hv : v.id = id
    · simp [hd, hv, Version.after]
    · simp [hv, Version.after]
  · rename_i hd
    simp [hd, versionsAfter]

/-- An exchange that made a comment. -/
theorem comment [Halves] (h : Kept supply books t) (hfresh : Fresh supply (books.taken + 1))
    {document version : String} (hthere : books.archive.version? document version ≠ none)
    {remark : Comment} (hid : remark.id = supply (books.taken + 1))
    (hnew : remark.resolution = none)
    (hx : x.Reads (fun _ => none)
      (fun d v => if d = document ∧ v = version then some remark else none)
      (fun _ _ _ => none) (some remark.id)) :
    Kept supply ⟨books.archive.changeVersion document version fun v =>
      { v with comments := v.comments ++ [remark] }, books.taken + 1⟩ (t ++ [x]) := by
  have hcreated : ∀ d, created d (t ++ [x]) = created d t :=
    fun d => created_snoc_of_none (hx.creation d) t
  have hremarks : ∀ d v, remarks d v (t ++ [x]) =
      remarks d v t ++ if d = document ∧ v = version then [remark] else [] := fun d v => by
    rw [remarks_snoc, hx.remark]
    split <;> rfl
  have hmade : version ∈ (created document t).map (·.id) := h.version?_ne_none_iff.mp hthere
  -- nobody can have resolved a comment whose identifier was not taken yet
  have hopen : remark.after document version t = remark := by
    have hnone : resolutions document version remark.id t = [] := by
      refine Classical.byContradiction fun hsome => h.next_not_mem hfresh ?_
      rw [← hid]
      exact (remarks_sublist document version t).subset (h.resolved _ _ _ hsome)
    rw [Comment.after, hnone, List.getLast?_nil, ← hnew]
  constructor
  · refine h.changeVersion (hfresh.mono (Nat.le_succ _)) document version _ hcreated ?_
    intro d v _
    simp only [Version.after, commentsAfter, hremarks, Comment.after_snoc_of_none hx.resolution]
    split
    · rename_i hhere
      obtain ⟨rfl, rfl⟩ := hhere
      rw [List.map_append, List.map_singleton, hopen]
    · rw [List.append_nil]
  · exact h.identifiers_next (hid ▸ hx.identifier)
  · exact h.numbered_snoc fun d v hv => by simp [hx.creation] at hv
  · intro d v hsome
    rw [hremarks] at hsome
    rw [hcreated]
    split at hsome
    · rename_i hhere
      rw [hhere.1, hhere.2]
      exact hmade
    · rw [List.append_nil] at hsome
      exact h.remarked d v hsome
  · intro d v c hsome
    rw [resolutions_snoc_of_none hx.resolution] at hsome
    rw [hremarks, List.map_append]
    exact List.mem_append_left _ (h.resolved d v c hsome)

/-- An exchange that resolved a comment. -/
theorem resolve [Halves] (h : Kept supply books t) (hfresh : Fresh supply books.taken)
    {document version comment : String} {resolution : Resolution}
    (hthere : comment ∈ (remarks document version t).map (·.id))
    (hx : x.Reads (fun _ => none) (fun _ _ => none)
      (fun d v c => if d = document ∧ v = version ∧ c = comment then some resolution else none)
      none) :
    Kept supply ⟨books.archive.changeVersion document version fun v =>
      { v with
        comments := Archive.changeFirst (·.id == comment)
          (fun c => { c with resolution := some resolution }) v.comments }, books.taken⟩
      (t ++ [x]) := by
  have hcreated : ∀ d, created d (t ++ [x]) = created d t :=
    fun d => created_snoc_of_none (hx.creation d) t
  have hremarks : ∀ d v, remarks d v (t ++ [x]) = remarks d v t :=
    fun d v => remarks_snoc_of_none (hx.remark d v) t
  have hresolutions : ∀ d v c, resolutions d v c (t ++ [x]) = resolutions d v c t ++
      if d = document ∧ v = version ∧ c = comment then [resolution] else [] := fun d v c => by
    rw [resolutions_snoc, hx.resolution]
    split <;> rfl
  constructor
  · refine h.changeVersion hfresh document version _ hcreated ?_
    intro d v _
    split
    · rename_i hhere
      obtain ⟨rfl, rfl⟩ := hhere
      have hnodup := h.nodup_comments hfresh d v.id
      simp only [Version.after]
      rw [Archive.changeFirst_eq_map Comment.id comment _ hnodup, commentsAfter, commentsAfter,
        hremarks, List.map_map]
      congr 2
      funext c
      by_cases hc : c.id = comment
      · simp [Comment.after, hresolutions, hc]
      · simp [Comment.after, hresolutions, hc]
    · rename_i helse
      have hsame : ∀ c, resolutions d v.id c (t ++ [x]) = resolutions d v.id c t := fun c => by
        rw [hresolutions, if_neg fun hhere => helse ⟨hhere.1, hhere.2.1⟩, List.append_nil]
      simp only [Version.after, commentsAfter, hremarks]
      congr 2
      funext c
      rw [Comment.after, Comment.after, hsame]
  · rw [identifiers_snoc_of_none hx.identifier, h.identifiers]
  · exact h.numbered_snoc fun d v hv => by simp [hx.creation] at hv
  · intro d v
    rw [hremarks, hcreated]
    exact h.remarked d v
  · intro d v c hsome
    rw [hresolutions] at hsome
    rw [hremarks]
    split at hsome
    · rename_i hhere
      rw [hhere.1, hhere.2.1, hhere.2.2]
      exact hthere
    · rw [List.append_nil] at hsome
      exact h.resolved d v c hsome

/-! ## Runs -/

/-- Every exchange keeps the books in agreement with the transcript. -/
theorem answer [Halves] (h : Kept supply books t) (request : Request)
    (hfresh : Fresh supply (books.answer supply request).1.taken) :
    Kept supply (books.answer supply request).1
      (t ++ [⟨request, (books.answer supply request).2⟩]) := by
  obtain ⟨document, now, wish⟩ := request
  unfold Books.answer at hfresh ⊢
  cases hname : documentName document with
  | error fault => exact h.idle (Exchange.readsNothing_of_error ⟨document, now, wish⟩ hname)
  | ok name =>
      simp only [hname] at hfresh ⊢
      cases wish with
      | create content author message =>
          exact h.create hfresh rfl rfl (Exchange.reads_create hname content author message _)
      | comment version content author =>
          simp only [Books.fulfil, Archive.comment] at hfresh ⊢
          cases hthere : books.archive.version? name version with
          | none => exact h.idle ⟨fun _ => rfl, fun _ _ => rfl, fun _ _ _ => rfl, rfl⟩
          | some found =>
              rw [hthere] at hfresh
              exact h.comment hfresh (by simp [hthere]) rfl rfl
                (Exchange.reads_comment hname version content author _)
      | resolve version comment author =>
          simp only [Books.fulfil, Archive.resolve, h.comments] at hfresh ⊢
          split
          · rename_i hany
            exact h.resolve hfresh ((any_id_commentsAfter_iff name version comment t).mp hany)
              (Exchange.reads_resolve hname version comment author)
          · exact h.idle ⟨fun _ => rfl, fun _ _ => rfl, fun _ _ _ => rfl, rfl⟩
      | _ => exact h.idle ⟨fun _ => rfl, fun _ _ => rfl, fun _ _ _ => rfl, rfl⟩

end Kept

theorem taken_le_answer [Halves] (supply : Nat → String) (books : Books) (request : Request) :
    books.taken ≤ (books.answer supply request).1.taken := by
  obtain ⟨document, now, wish⟩ := request
  unfold Books.answer
  split
  · cases wish with
    | create content author message => exact Nat.le_succ _
    | comment version content author =>
        simp only [Books.fulfil]
        split
        · exact Nat.le_succ _
        · exact Nat.le_refl _
    | _ => exact Nat.le_refl _
  · exact Nat.le_refl _

/-- After every run the books hold what the transcript says. -/
theorem Kept.run [Halves] {supply : Nat → String} {books : Books} {t : List Exchange}
    (h : Kept supply books t) (requests : List Request)
    (hfresh : Fresh supply (History.run supply requests books).1.taken) :
    Kept supply (History.run supply requests books).1
      (t ++ (History.run supply requests books).2) := by
  have hback : ∀ (books : Books) (request : Request),
      Fresh supply (books.exchange supply request).1.taken → Fresh supply books.taken :=
    fun books request hafter => hafter.mono (taken_le_answer supply books request)
  refine Transcript.keeps_run (fun books => Fresh supply books.taken) hback (Kept supply) ?_
    requests h hfresh
  intro books t request hkept hafter
  exact hkept.answer request hafter

theorem Books.answer_of_name [Halves] {supply : Nat → String} {document : Value} {d : String}
    (hname : documentName document = .ok d) (books : Books) (now : Stamp) (wish : Wish) :
    books.answer supply ⟨document, now, wish⟩ = books.fulfil supply d document now wish := by
  simp only [Books.answer, hname]

theorem kept_after_run [Halves] {supply : Nat → String} (requests : List Request)
    (hfresh : Fresh supply (run supply requests {}).1.taken) :
    Kept supply (run supply requests {}).1 (run supply requests {}).2 :=
  (Kept.empty supply).run requests hfresh

end Scriptorium.History
