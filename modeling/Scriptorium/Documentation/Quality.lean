import Scriptorium.Decimal.Fixed
import Scriptorium.Source.Structure
import Scriptorium.Text.Blank
import Scriptorium.Value.Access
import Scriptorium.Value.Arithmetic
set_option autoImplicit false

/-!
# The quality of documentation

Documentation is assessed against the structure of its file: how many of its elements are
documented, which required sections their documentation lacks, and how readable the text is.
The structure, the required sections and the weights are free-form data, and reaching into
them may fail.

It gets three scores between 0 and 100: how much of the code is documented, how readable the text
is, and the weighted mean of these two and of the text's consistency.  The formulas are stated once
for any arithmetic; reports compute them with `Number`.
-/

namespace Scriptorium.Documentation

open Source (Format)

/-! ## Scores -/

/-- The operations that scores are computed with. -/
structure Arithmetic (α : Type) where
  ofInt : Int → α
  add : α → α → α
  sub : α → α → α
  mul : α → α → α
  div : α → α → α
  lt : α → α → Bool

/-- Scores as reports show them: whole where the formula stays whole, floats otherwise. -/
def numbers : Arithmetic Number where
  ofInt := .whole
  add := Number.add
  sub := Number.sub
  mul := Number.mul
  div := Number.div
  lt := Number.lt

namespace Score

variable {α : Type} (A : Arithmetic α)

/-- The percentage of documented elements; nothing to document is fully documented. -/
def coverage (documented total : Nat) : α :=
  if total = 0 then A.ofInt 100
  else A.mul (A.div (A.ofInt documented) (A.ofInt total)) (A.ofInt 100)

/-- The nearest value between 0 and 100. -/
def clamp (x : α) : α :=
  let floored := if A.lt (A.ofInt 0) x then x else A.ofInt 0
  if A.lt floored (A.ofInt 100) then floored else A.ofInt 100

/-- Ten points are lost for each letter by which the mean word is longer than five. -/
def readability (letters words : Nat) : α :=
  let mean := if words = 0 then A.ofInt 0 else A.div (A.ofInt letters) (A.ofInt words)
  clamp A (A.sub (A.ofInt 100) (A.mul (A.sub mean (A.ofInt 5)) (A.ofInt 10)))

/-- Five points are lost for each issue. -/
def consistency (issues : Nat) : Int := 100 - issues * 5

/-- The weighted sum of the three scores. -/
def completeness (coverage readability : α) (issues : Nat)
    (coverageWeight readabilityWeight consistencyWeight : α) : α :=
  A.add (A.add (A.mul coverage coverageWeight) (A.mul readability readabilityWeight))
    (A.mul (A.ofInt (consistency issues)) consistencyWeight)

end Score

/-! ## Assessments -/

/-- What documentation is assessed against.  Either part may be left unset. -/
structure Standards where
  /-- For each language, the sections that its elements have to document. -/
  sections : Option Value := none
  /-- The weights of the three scores. -/
  weights : Option Value := none

/-- The cause of failure when a part of the standards is unset. -/
def unset (part : String) : Fault := .noMember "DocumentService" part

/-- Documentation that lacks required sections. -/
structure Issue where
  element : String
  absent : String
  deriving DecidableEq, Repr

/-- An issue as a record. -/
def Issue.toValue (i : Issue) : Value :=
  .record [("type", .text "incomplete_documentation"), ("element", .text i.element),
    ("message", .text s!"Missing documentation sections: {i.absent}"),
    ("severity", .text "warning")]

/-- What would raise a score. -/
inductive Suggestion where
  | coverage (score : Number)
  | readability
  deriving DecidableEq, Repr

/-- A suggestion as a record. -/
def Suggestion.toValue : Suggestion → Value
  | coverage score => .record [("type", .text "coverage"),
      ("message", .text ("Documentation coverage is " ++ Decimal.onePlace score.toFloat ++
        "%. Consider adding documentation for all public APIs.")),
      ("severity", .text "medium")]
  | readability => .record [("type", .text "readability"),
      ("message", .text "Documentation could be more concise and easier to read."),
      ("severity", .text "low")]

/-- The assessment of documentation. -/
structure Quality where
  completeness : Value
  coverage : Number
  readability : Number
  issues : List Issue
  suggestions : List Suggestion

/-- An assessment as a record. -/
def Quality.fields (q : Quality) : Fields :=
  [("completeness_score", q.completeness), ("coverage_score", .ofNumber q.coverage),
    ("readability_score", .ofNumber q.readability),
    ("issues", .list (q.issues.map (·.toValue))),
    ("suggestions", .list (q.suggestions.map (·.toValue)))]

/-- The number of elements that carry documentation. -/
def countDocumented (elements : List Value) : Outcome Nat :=
  elements.foldlM (fun n element => do
    let flag ← element.getOr "has_docstring" .null
    return if flag.truthy then n + 1 else n) 0

/-- The required sections that a piece of documentation does not name. -/
def absentSections [Halves] (doc : Value) (required : List Value) : Outcome (List Value) :=
  required.filterM fun section' => do
    let text ← doc.textFor "lower"
    return !Text.occursIn (section'.shown ++ ":").toList (Text.lowerChars text.toList)

/-- The issue with one element, if its documentation lacks a section. -/
def issueOf [Halves] (standards : Value) (element : Value) : Outcome (Option Issue) := do
  let flag ← element.getOr "has_docstring" .null
  if !flag.truthy then return none
  let doc ← element.getOr "docstring" (.text "")
  let required ← (← (← standards.entry "function").entry "required").items
  let absent ← absentSections doc required
  if absent.isEmpty then return none
  let name ← element.entry "name"
  let listed ← Value.joined ", " (.list absent)
  return some ⟨name.shown ++ "()", listed⟩

/-- The issues with the functions of a structure. -/
def issuesOf [Halves] (standards structure' : Value) : Outcome (List Issue) := do
  let functions ← (← structure'.getOr "functions" (.list [])).items
  return (← functions.mapM (issueOf standards)).filterMap id

/-- The issues with the functions of a structure, if the standards know the language. -/
def Standards.issues [Halves] (standards : Standards) (format : Format) (structure' : Value) :
    Outcome (List Issue) :=
  match standards.sections with
  | some sections => do
    if ← sections.holdsName format.name then issuesOf (← sections.entry format.name) structure'
    else return []
  | none => .error (unset "documentation_standards")

/-- The words of a documentation text. -/
def wordsOf (documentation : Value) : Outcome (List (List Char)) := do
  let _ ← documentation.size
  return Text.wordsOf (← documentation.textFor "split").toList []

/-- The weighted sum of the scores.  Each weight is looked up when its turn comes. -/
def completeness (coverage readability : Number) (issues : Nat) (weights : Option Value) :
    Outcome Value := do
  let weight (name : String) : Outcome Value :=
    match weights with
    | some w => w.entry name
    | none => .error (unset "metrics_config")
  let covered ← (Value.ofNumber coverage).times (← weight "coverage_weight")
  let readable ← (Value.ofNumber readability).times (← weight "readability_weight")
  let both ← covered.plus readable
  let consistent ← (Value.int (Score.consistency issues)).times (← weight "consistency_weight")
  both.plus consistent

/-- What documentation is scored by: the documented elements among all of them, the issues, and the
letters and words of the text. -/
structure Tally where
  documented : Nat
  elements : Nat
  issues : List Issue
  letters : Nat
  words : Nat

/-- Counts what documentation is scored by. -/
def tally [Halves] (standards : Standards) (documentation suffix structure' : Value) :
    Outcome Tally := do
  let functions ← structure'.getOr "functions" (.list [])
  let functionCount ← functions.size
  let classes ← structure'.getOr "classes" (.list [])
  let classCount ← classes.size
  let documented ← countDocumented (← functions.items)
  let documentedClasses ← countDocumented (← classes.items)
  let format ← Format.find suffix
  let issues ← standards.issues format structure'
  let words ← wordsOf documentation
  return ⟨documented + documentedClasses, functionCount + classCount, issues,
    words.foldl (fun n word => n + word.length) 0, words.length⟩

namespace Tally

variable {α : Type} (A : Arithmetic α) (t : Tally)

/-- How much of the code is documented. -/
def coverage : α := Score.coverage A t.documented t.elements

/-- How readable the text is. -/
def readability : α := Score.readability A t.letters t.words

end Tally

/-- Assesses documentation against the structure of its file (`_analyze_documentation_quality`). -/
def assess [Halves] (standards : Standards) (documentation suffix structure' : Value) :
    Outcome Quality := do
  let t ← tally standards documentation suffix structure'
  let coverage := t.coverage numbers
  let readability := t.readability numbers
  let suggestions :=
    (if coverage.lt (.whole 80) then [Suggestion.coverage coverage] else []) ++
    (if readability.lt (.whole 70) then [Suggestion.readability] else [])
  let complete ← completeness coverage readability t.issues.length standards.weights
  return ⟨complete, coverage, readability, t.issues, suggestions⟩

/-- The grade of a score (`_score_to_grade`). -/
def grade (score : Value) : Outcome String := do
  if ← score.atLeast 90 then return "A"
  if ← score.atLeast 80 then return "B"
  if ← score.atLeast 70 then return "C"
  if ← score.atLeast 60 then return "D"
  return "F"

/-- The score that a record of scores is graded by (`_calculate_overall_score`). -/
def overall (scores : Value) : Outcome Value := scores.entry "completeness_score"

/-- The share of elements that carry documentation (`_calculate_docstring_coverage`). -/
def share (elements : Value) : Outcome Float := do
  if !elements.truthy then return 0
  let items ← elements.items
  let documented ← countDocumented items
  return Float.ofNat documented / Float.ofNat items.length

end Scriptorium.Documentation
