import Scriptorium.History.Archive
set_option autoImplicit false

/-!
# Requests to the archive

What can be asked about a document, and what is answered.  A request that makes a version or a
comment takes the next identifier of a supply for it.  A request that fails changes nothing.
-/

namespace Scriptorium.History

variable [Halves]

/-- What can be asked about a document. -/
inductive Wish where
  | create (content author message : Value)
  | versions
  | latest
  | compare (old new : String)
  | comment (version : String) (content author : Value)
  | comments (version : String)
  | storedComments (version : String)
  | resolve (version comment : String) (author : Value)
  | collaborators
  | addCollaborator
  deriving Repr

/-- A request: what is asked, about which document, and when. -/
structure Request where
  document : Value
  now : Stamp
  wish : Wish
  deriving Repr

/-- The archive, and how many identifiers of the supply are in use. -/
structure Books where
  archive : Archive := []
  taken : Nat := 0
  deriving Repr

/-- What a comparison shows, or why there is none. -/
def comparisonValue : Except Absence Comparison → Value
  | .ok c => c.toValue
  | .error absence => .record [("error", .text absence.message)]

/-- Answers a request about a document that is kept under a name. -/
def Books.fulfil (supply : Nat → String) (books : Books) (name : String) (document : Value)
    (now : Stamp) : Wish → Books × Outcome Value
  | .create content author message =>
    let version : Version := ⟨supply (books.taken + 1), content, author, now, message, []⟩
    (⟨books.archive.create name version, books.taken + 1⟩, .ok (version.announced document))
  | .versions => (books, .list <$> (books.archive.versions name).mapM (·.toValue))
  | .latest => (books, .ok (((books.archive.latest? name).map (·.whole document)).getD .null))
  | .compare old new => (books, comparisonValue <$> books.archive.compare name old new)
  | .comment version content author =>
    match books.archive.comment name version
        ⟨supply (books.taken + 1), content, author, now, none⟩ with
    | (archive, some comment) => (⟨archive, books.taken + 1⟩, .ok comment.toValue)
    | (_, none) => (books, .ok .null)
  | .comments version =>
    (books, .ok (.list ((books.archive.comments name version).map (·.toValue))))
  | .storedComments version =>
    (books, (fun comments => .list (comments.map (·.stored))) <$>
      books.archive.storedComments document version)
  | .resolve version comment author =>
    let (archive, found) := books.archive.resolve name version comment author now
    ({ books with archive }, .ok (.bool found))
  | .collaborators => (books, .ok (.list []))
  | .addCollaborator => (books, .bool <$> books.archive.addCollaborator name)

/-- Answers a request. -/
def Books.answer (supply : Nat → String) (books : Books) (request : Request) :
    Books × Outcome Value :=
  match documentName request.document with
  | .ok name => books.fulfil supply name request.document request.now request.wish
  | .error fault => (books, .error fault)

end Scriptorium.History
