import Scriptorium.Drafting.Quality
set_option autoImplicit false

/-!
# Improvements of drafts

What could be improved in a draft, read off its measures: sections, and length.  A draft that
cannot be measured counts as one without sections and words.
-/

namespace Scriptorium.Drafting

/-- How much an improvement matters. -/
inductive Weight where
  | high
  | medium
  | low
  deriving DecidableEq, Repr

/-- The name of a weight. -/
def Weight.name : Weight → String
  | high => "high"
  | medium => "medium"
  | low => "low"

/-- What could be improved. -/
inductive Improvement where
  | coverage
  | structure (missing : List String)
  | length
  deriving DecidableEq, Repr

namespace Improvement

/-- What an improvement is about. -/
def topic : Improvement → String
  | coverage => "coverage"
  | .structure _ => "structure"
  | length => "content"

/-- How much an improvement matters. -/
def weight : Improvement → Weight
  | coverage => .high
  | .structure _ => .medium
  | length => .low

/-- What is wrong. -/
def message : Improvement → String
  | coverage => "Document has low coverage of required sections."
  | .structure missing => "Missing recommended sections: " ++ ", ".intercalate missing
  | length => "Document is quite short."

/-- What could be done about it. -/
def advice : Improvement → String
  | coverage => "Consider adding more sections to cover all aspects of the document type."
  | .structure _ => "Add these sections to improve document completeness."
  | length => "Consider adding more detailed explanations and examples."

/-- An improvement as a record. -/
def toValue (i : Improvement) : Value :=
  .record [("type", .text i.topic), ("severity", .text i.weight.name),
    ("message", .text i.message), ("suggestion", .text i.advice)]

end Improvement

/-- The share of required sections below which it is low. -/
def leastCoverage : Int := 50

/-- The number of words below which a draft is short. -/
def leastWords : Nat := 200

/-- What could be improved in a measured draft. -/
def Analysis.improvements (a : Analysis) : List Improvement :=
  (if (Number.real a.coverage).ge (.whole leastCoverage) then [] else [.coverage]) ++
    (if a.missing.isEmpty then [] else [.structure a.missing]) ++
    (if a.wordCount < leastWords then [.length] else [])

/-- What could be improved in a document of some kind, with its measures (`suggest_improvements`).
-/
def improve [Halves] (document kind : Value) (now : Stamp) : Value :=
  let found : List Improvement := match analyse document kind now with
    | .ok a => a.improvements
    | .error _ => [.coverage, .length]
  .record [("suggestions", .list (found.map (·.toValue))),
    ("analysis", quality document kind now)]

end Scriptorium.Drafting
