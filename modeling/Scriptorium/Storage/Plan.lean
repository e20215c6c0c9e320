import Scriptorium.Storage.Catalog
set_option autoImplicit false

/-!
# The plan of the database

The tables of the program with their indexes, each after those that its foreign keys name.  The
database is brought to the plan by one run of commands, and taken back by another one.
-/

namespace Scriptorium.Storage

/-! ## Columns -/

/-- The number of characters of an identifier. -/
def identLimit : Nat := 36

namespace Column

/-- The column of a row's own identifier. -/
def ident : Column := { name := "id", type := .label identLimit, filling := .freshIdent }

/-- The column of another row's identifier. -/
def reference (name : String) : Column := { name, type := .label identLimit }

/-- The column of a short text. -/
def label (name : String) (limit : Nat) : Column := { name, type := .label limit }

/-- The column of a text. -/
def text (name : String) : Column := { name, type := .text }

/-- The column of a truth value that the program fills. -/
def flag (name : String) (b : Bool) : Column := { name, type := .truth, filling := .truth b }

/-- The column of a truth value that the database sets to false. -/
def unset (name : String) : Column := { name, type := .truth, preset := .text "false" }

/-- The column of a time that the database sets. -/
def timed (name : String) : Column := { name, type := .moment, preset := .now }

/-- A column that may be empty. -/
def orEmpty (c : Column) : Column := { c with mayBeEmpty := true }

end Column

/-! ## Tables -/

/-- A table with its indexes. -/
structure Planned where
  form : TableForm
  indexes : List Index
  deriving DecidableEq, Repr

/-- The index of the identifiers of a table. -/
def identIndex (table : String) : Index := ⟨s!"ix_{table}_id", table, ["id"], false⟩

/-- A table with identifiers, and an index of them behind other ones. -/
def identified (name : String) (columns : List Column) (foreignKeys : List ForeignKey)
    (indexes : List Index) : Planned :=
  ⟨{ name, columns := .ident :: columns, foreignKeys }, indexes ++ [identIndex name]⟩

/-- The connections to assistants. -/
def integrations : Planned :=
  identified "ai_integrations"
    [.label "provider" 50, .label "api_key" 255, .label "model" 100, .flag "is_active" true,
      .timed "created_at", { name := "updated_at", type := .moment }]
    [] []

/-- The documents. -/
def documents : Planned :=
  identified "documents"
    [.label "title" 255, (Column.text "description").orEmpty, .timed "created_at",
      .timed "updated_at", .reference "created_by", .unset "is_public"]
    [] []

/-- The users. -/
def users : Planned :=
  identified "users"
    [.label "email" 255, .label "hashed_password" 255, (Column.label "full_name" 100).orEmpty,
      .flag "is_active" true, .flag "is_superuser" false, .timed "created_at", .timed "updated_at"]
    [] [⟨"ix_users_email", "users", ["email"], true⟩]

/-- Who works on which document. -/
def collaborators : Planned where
  form :=
    { name := "document_collaborators"
      columns := [.reference "document_id", .reference "user_id",
        { name := "permission_level", type := .label 20, mayBeEmpty := true
          preset := .text "viewer" },
        (Column.timed "added_at").orEmpty]
      foreignKeys := [⟨"document_id", "documents", "id"⟩]
      key := ["document_id", "user_id"] }
  indexes := []

/-- The versions of documents. -/
def versions : Planned :=
  identified "document_versions"
    [.reference "document_id", { name := "version_number", type := .whole }, .text "content",
      .reference "author_id", .timed "created_at", (Column.text "message").orEmpty,
      { name := "change_summary", type := .json, mayBeEmpty := true }]
    [⟨"document_id", "documents", "id"⟩] []

/-- The projects, each of which has an owner. -/
def projects : Planned :=
  identified "projects"
    [.label "name" 100, (Column.text "description").orEmpty, .reference "owner_id",
      .timed "created_at", .timed "updated_at"]
    [⟨"owner_id", "users", "id"⟩] []

/-- The comments on versions. -/
def comments : Planned :=
  identified "document_comments"
    [.reference "version_id", .text "content", .reference "author_id", .timed "created_at",
      .unset "resolved", (Column.reference "resolved_by").orEmpty,
      { name := "resolved_at", type := .moment, mayBeEmpty := true },
      (Column.reference "parent_comment_id").orEmpty,
      { name := "comment_metadata", type := .json, preset := .text "\x7b\x7d" }]
    [⟨"parent_comment_id", "document_comments", "id"⟩, ⟨"version_id", "document_versions", "id"⟩] []

/-- The tables of the program. -/
def plan : List Planned :=
  [integrations, documents, users, collaborators, versions, projects, comments]

/-- The form of a planned table. -/
def planned? (name : String) : Option TableForm :=
  (plan.find? (·.form.name = name)).map (·.form)

/-- The names of the planned tables, sorted. -/
def plannedNames : List String := (plan.map (·.form.name)).mergeSort (· ≤ ·)

/-! ## Commands -/

/-- The commands that create a table and its indexes. -/
def Planned.creation (p : Planned) : List Command :=
  .createTable p.form :: p.indexes.map .createIndex

/-- The commands that bring an empty database to the plan (`upgrade`). -/
def upgrade : List Command := plan.flatMap Planned.creation

/-- The commands that take the plan back (`downgrade`). -/
def downgrade : List Command :=
  [.dropIndex "ix_document_comments_id" "document_comments", .dropTable "document_comments",
    .dropIndex "ix_projects_id" "projects", .dropTable "projects",
    .dropIndex "ix_document_versions_id" "document_versions", .dropTable "document_versions",
    .dropTable "document_collaborators",
    .dropIndex "ix_users_id" "users", .dropIndex "ix_users_email" "users", .dropTable "users",
    .dropIndex "ix_documents_id" "documents", .dropTable "documents",
    .dropIndex "ix_ai_integrations_id" "ai_integrations", .dropTable "ai_integrations"]

end Scriptorium.Storage
