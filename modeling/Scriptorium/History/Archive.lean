import Scriptorium.Diff.Unified
import Scriptorium.Fault
import Scriptorium.Ident
import Scriptorium.Json.Writer
import Scriptorium.Stamp
import Scriptorium.Value.Access
import Scriptorium.Value.Pairs
set_option autoImplicit false

/-!
# The archive of versions

A document is a list of versions in the order in which they were made; a version carries the
comments made on it.  A comment may be resolved, and then says by whom and when.  Versions are only
ever added.  Comments are added to a version and may be resolved; nothing else about a version
changes.
-/

namespace Scriptorium.History

/-! ## Versions and comments -/

/-- Who resolved a comment, and when. -/
structure Resolution where
  author : Value
  time : Stamp
  deriving Repr

/-- A comment on a version. -/
structure Comment where
  id : String
  content : Value
  author : Value
  time : Stamp
  resolution : Option Resolution := none
  deriving Repr

/-- A version of a document (`DocumentVersion`). -/
structure Version where
  id : String
  content : Value
  author : Value
  time : Stamp
  message : Value
  comments : List Comment := []
  deriving Repr

/-- All documents with their versions, in the order in which they were first written
(`DocumentCollaboration`). -/
abbrev Archive := List (String × List Version)

/-- A comment as lists show it. -/
def Comment.toValue (c : Comment) : Value :=
  .record [("comment_id", .text c.id), ("content", c.content), ("author", c.author),
    ("timestamp", .text c.time.text), ("resolved", .bool c.resolution.isSome)]

/-- A comment as it is stored. -/
def Comment.stored (c : Comment) : Value :=
  .record ([("comment_id", .text c.id), ("content", c.content), ("author", c.author),
    ("timestamp", .text c.time.text), ("resolved", .bool c.resolution.isSome),
    ("replies", .list [])] ++
    match c.resolution with
    | some r => [("resolved_by", r.author), ("resolved_at", .text r.time.text)]
    | none => [])

/-- A version as lists show it. -/
def Version.toValue (v : Version) : Outcome Value := do
  return .record [("version_id", .text v.id), ("timestamp", .text v.time.text),
    ("author", v.author), ("message", v.message), ("content_length", .int (← v.content.size))]

/-- A version as it is announced when it is made. -/
def Version.announced (document : Value) (v : Version) : Value :=
  .record [("document_id", document), ("version_id", .text v.id), ("timestamp", .text v.time.text),
    ("author", v.author), ("message", v.message)]

/-- A version with its content. -/
def Version.whole (document : Value) (v : Version) : Value :=
  .record [("document_id", document), ("version_id", .text v.id), ("content", v.content),
    ("author", v.author), ("timestamp", .text v.time.text), ("message", v.message)]

/-- The key that stands for all keys equal to it: a truth value or a whole float is the same key
as its whole number. -/
def plainKey (key : Value) : Value :=
  match key.number?.map Number.place with
  | some (.at num den) => if num % den = 0 then .int (num / den) else key
  | _ => key

/-- The name under which a document is kept. -/
def documentName [Halves] (document : Value) : Outcome String :=
  if document.isScalar then .ok (Json.keyName (plainKey document))
  else .error (.unhashable document.kind)

/-! ## The archive -/

namespace Archive

/-- The versions of a document, oldest first; nothing for a document that is not there. -/
def versions? (archive : Archive) (document : String) : Option (List Version) :=
  Fields.get? archive document

/-- The versions of a document, oldest first. -/
def versions (archive : Archive) (document : String) : List Version :=
  (archive.versions? document).getD []

/-- A version of a document (`get_version`). -/
def version? (archive : Archive) (document id : String) : Option Version :=
  (archive.versions document).find? (·.id == id)

/-- The latest version of a document (`get_latest_version`). -/
def latest? (archive : Archive) (document : String) : Option Version :=
  (archive.versions document).getLast?

/-- Adds a version to a document, which is made if it is not there (`add_version`). -/
def create (archive : Archive) (document : String) (version : Version) : Archive :=
  Fields.put archive document (archive.versions document ++ [version])

/-- Changes the first item that satisfies `p`. -/
def changeFirst {α : Type} (p : α → Bool) (f : α → α) : List α → List α
  | [] => []
  | x :: rest => if p x then f x :: rest else x :: changeFirst p f rest

/-- Changes the version of a document with this id. -/
def changeVersion (archive : Archive) (document id : String) (f : Version → Version) : Archive :=
  match archive.versions? document with
  | some versions => Fields.put archive document (changeFirst (·.id == id) f versions)
  | none => archive

/-- Adds a comment to a version (`add_comment`); nothing happens if the version is not there. -/
def comment (archive : Archive) (document id : String) (comment : Comment) :
    Archive × Option Comment :=
  match archive.version? document id with
  | some _ => (archive.changeVersion document id fun v =>
      { v with comments := v.comments ++ [comment] }, some comment)
  | none => (archive, none)

/-- The comments on a version, in the order in which they were made (`get_version_comments`). -/
def comments (archive : Archive) (document id : String) : List Comment :=
  ((archive.version? document id).map (·.comments)).getD []

/-- Resolves a comment, and says whether it is there (`resolve_comment`). -/
def resolve (archive : Archive) (document id comment : String) (author : Value) (now : Stamp) :
    Archive × Bool :=
  if (archive.comments document id).any (·.id == comment) then
    let close (c : Comment) : Comment := { c with resolution := some ⟨author, now⟩ }
    (archive.changeVersion document id fun v =>
      { v with comments := changeFirst (·.id == comment) close v.comments }, true)
  else (archive, false)

/-- The comments on a version as they are stored; document and version have to be there. -/
def storedComments [Halves] (archive : Archive) (document : Value) (id : String) :
    Outcome (List Comment) := do
  match archive.versions? (← documentName document) with
  | none => throw (.missingKey document)
  | some versions => match versions.find? (·.id == id) with
    | some v => return v.comments
    | none => throw (.noMember Kind.nothing.label "comments")

/-- Adding a collaborator to a document that is there is not supported (`add_collaborator`). -/
def addCollaborator (archive : Archive) (document : String) : Outcome Bool :=
  match archive.versions? document with
  | some _ => .error (.noMember "DocumentCollaboration" "add_collaborator")
  | none => .ok false

end Archive

/-- How many changes of each kind lie between two versions. -/
structure Changes where
  added : Nat
  removed : Nat
  modified : Nat
  deriving DecidableEq, Repr

/-- Counts the changes between two texts (`_calculate_changes`).  Only replaced passages are
counted: a passage that was only inserted or only deleted has no size to count. -/
def countChanges (old new : String) : Outcome Changes :=
  let edits := Diff.edits (Text.lines old.toList) (Text.lines new.toList)
  if edits.any fun e => e.action = .insert ∨ e.action = .delete then .error (.unbound "size")
  else .ok ⟨0, 0, (edits.filter (·.action = .replace)).length⟩

/-- The text of a version, which has lines. -/
def Version.text (v : Version) : Outcome String := v.content.textFor "splitlines"

/-- The comparison of two versions. -/
structure Comparison where
  old : Version
  new : Version
  diff : String
  changes : Changes

/-- A version as a diff names it. -/
def Version.side (v : Version) : Diff.Side :=
  ⟨"version_" ++ String.ofList (v.id.toList.take 8), v.time.text⟩

/-- Compares two versions. -/
def compare (old new : Version) : Outcome Comparison := do
  let before ← old.text
  let after ← new.text
  let diff := Diff.unified old.side new.side before after
  return ⟨old, new, diff, ← countChanges before after⟩

/-- Why two versions cannot be compared. -/
inductive Absence where
  | document
  | version
  deriving DecidableEq, Repr

/-- The wording of an absence. -/
def Absence.message : Absence → String
  | document => "Document not found"
  | version => "One or both versions not found"

/-- Compares two versions of a document, if both are there (`get_version_diff`). -/
def Archive.compare (archive : Archive) (document old new : String) :
    Outcome (Except Absence Comparison) :=
  match archive.versions? document with
  | none => .ok (.error .document)
  | some _ =>
    match archive.version? document old, archive.version? document new with
    | some a, some b => .ok <$> History.compare a b
    | _, _ => .ok (.error .version)

/-- A comparison as a record. -/
def Comparison.toValue (c : Comparison) : Value :=
  .record [("old_version", .text c.old.id), ("new_version", .text c.new.id), ("diff", .text c.diff),
    ("changes", .record [("added", .int c.changes.added), ("removed", .int c.changes.removed),
      ("modified", .int c.changes.modified)])]

end Scriptorium.History
