import Scriptorium.Drafting.Specification
import Scriptorium.Text.Blank
import Scriptorium.Value.Access
import Scriptorium.Value.Arithmetic
set_option autoImplicit false

/-!
# The quality of drafts

A draft is measured by its words, its headings and the required sections that it lacks.
-/

namespace Scriptorium.Drafting

/-- The measures of a draft. -/
structure Analysis where
  wordCount : Nat
  sectionCount : Nat
  required : List String
  missing : List String
  time : Stamp
  deriving Repr

/-- The share of required sections that are there, in percent. -/
def Analysis.coverage (a : Analysis) : Float :=
  Decimal.ofInt (a.required.length - a.missing.length) / Decimal.ofInt a.required.length * 100

/-- Measures as a record. -/
def Analysis.toValue (a : Analysis) : Value :=
  .record [("word_count", .int a.wordCount), ("section_count", .int a.sectionCount),
    ("required_sections", .list (a.required.map .text)),
    ("missing_sections", .list (a.missing.map .text)), ("coverage_score", .float a.coverage),
    ("timestamp", .text a.time.text)]

/-- The mark of a heading. -/
def headingMark : List Char := ['#', '#']

/-- Whether a document has a section, whatever the case of its letters. -/
def hasSection (document : List Char) (name : String) : Bool :=
  Text.occursIn ("## " ++ name).toList (Text.lowerChars document)

/-- The required sections that a document lacks. -/
def missingSections (document : List Char) (required : List String) : List String :=
  required.filter fun name => !hasSection document name

/-- Measures a text against the sections it has to have. -/
def measure (document : String) (required : List String) (now : Stamp) : Analysis where
  wordCount := (Text.words document).length
  sectionCount := Text.count headingMark document.toList
  required := required
  missing := missingSections document.toList required
  time := now

/-- Measures a document of some kind. -/
def analyse (document kind : Value) (now : Stamp) : Outcome Analysis := do
  let text ← document.textFor "split"
  let required ← requiredSections kind
  if required.isEmpty then throw .divisionByZero
  return measure text required now

/-- The measures of a document as a record (`analyze_document_quality`); if it cannot be measured,
the reason and zeros. -/
def quality [Halves] (document kind : Value) (now : Stamp) : Value :=
  match analyse document kind now with
  | .ok a => a.toValue
  | .error f =>
    .record [("error", .text f.message), ("word_count", .int 0), ("section_count", .int 0),
      ("coverage_score", .int 0)]

/-- Looks for advice on a draft by its measures (`_generate_suggestions`).  No advice is ever given,
but measures of a wrong kind are a fault. -/
def advise (measures : Value) : Outcome Value := do
  if ← measures.holdsName "coverage_score" then
    discard ((← measures.entry "coverage_score").isBelow 50)
    let missing ← measures.getOr "missing_sections" .null
    if missing.truthy then
      discard ((← measures.entry "missing_sections").joined ", ")
  return .null

end Scriptorium.Drafting
