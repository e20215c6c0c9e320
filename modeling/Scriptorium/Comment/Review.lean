import Scriptorium.Comment.Inherited
set_option autoImplicit false

/-!
# Reviewing documented elements

An element without a docstring lacks documentation.  One whose docstring is not similar to its
code, by the cosine of their embeddings, is documented inconsistently.
-/

namespace Scriptorium.Comment

open Loose

variable [Halves]

/-! ## Similarity -/

/-- The items of an embedding; `path` is what it is called in complaints. -/
def coordinates (path : String) (t : Option Thing) : Outcome (List Value) :=
  match t with
  | some (.data (.list items)) => .ok items
  | some (.shared .list) => .ok []
  | t => do
    let _ ← Thing.member t "reduce"
    throw (.notFunction s!"{path}.reduce")

/-- The items of the second embedding, of which the places from `index` on are asked for; each
is looked at when its turn comes. -/
inductive Others where
  | listed (rest : List Value)
  | places (thing : Option Thing) (index : Nat)

/-- What stands in an embedding that is to be walked through. -/
def Others.of : Option Thing → Others
  | some (.data (.list items)) => .listed items
  | t => .places t 0

/-- The next item, if there is one, and what is left. -/
def Others.next : Others → Outcome (Option Value × Others)
  | listed [] => .ok (none, listed [])
  | listed (v :: rest) => .ok (some v, listed rest)
  | places t index => do
    match ← Thing.member t (toString index) with
    | some (.data v) => return (some v, places t (index + 1))
    | _ => return (none, places t (index + 1))

/-- The sum of the products of two embeddings' items; the sum so far is `sum`.  An item that the
second one lacks is no number. -/
def dotFrom : Others → Float → List Value → Outcome Float
  | _, sum, [] => .ok sum
  | others, sum, v :: rest => do
    let (w, others) ← others.next
    let x ← number (some v)
    let y ← number w
    dotFrom others (sum + x * y) rest

/-- The length of an embedding. -/
def magnitude (items : List Value) : Outcome Float := do
  let total ← items.foldlM (fun sum v => do
    let x ← number (some v)
    return sum + x * x) 0
  return total.sqrt

/-- The cosine of two embeddings (`cosineSimilarity`). -/
def cosine (a b : Option Thing) : Outcome Float := do
  let items ← coordinates "a" a
  let dot ← dotFrom (Others.of b) 0 items
  let length ← magnitude items
  let others ← coordinates "b" b
  return dot / (length * (← magnitude others))

/-! ## Issues -/

/-- What is wrong with the documentation of an element. -/
inductive IssueKind where
  | missing
  | inconsistent
  deriving DecidableEq, Repr

/-- The name of a kind of issue. -/
def IssueKind.label : IssueKind → String
  | missing => "missing"
  | inconsistent => "inconsistent"

/-- An element whose documentation is at fault. -/
structure Issue where
  kind : IssueKind
  element : Value
  confidence : Float
  suggestion : String
  deriving Repr

/-- A comment to start from for a function of this name (`generateDocumentationSuggestion`). -/
def suggestion (name : String) : String :=
  "/**\n * " ++ name ++ " - Add description here\n * \n" ++
  " * @param \x7btype\x7d paramName - parameter description\n" ++
  " * @returns \x7btype\x7d return value description\n */"

/-- The similarity below which documentation is inconsistent. -/
def threshold : Float := 0.7

/-- The issue of an element, if it has one. -/
def issueOf (embeddings : Option Value) (element : Value) : Outcome (Option Issue) := do
  let docstring ← member (some element) "docstring"
  let suggested := do return suggestion (← shown? (member? (some element) "name"))
  if !truthy docstring then return some ⟨.missing, element, 1, ← suggested⟩
  let embedding (v : Option Value) : Outcome (Option Thing) := do
    Thing.member (embeddings.map .data) (← shown? v)
  let code ← embedding (member? (some element) "code")
  let similarity ← cosine code (← embedding docstring)
  if similarity < threshold then
    return some ⟨.inconsistent, element, 1 - similarity, ← suggested⟩
  else return none

/-- The elements that are given as a list, or as the characters of a text. -/
def elementsIn : Option Value → Outcome (List Value)
  | some (.list items) => .ok items
  | some (.text s) => .ok (s.toList.map fun c => .text (String.singleton c))
  | _ => .error (.notIterated "elements")

/-- The issues of elements, in their order (`checkDocumentation`). -/
def issues (embeddings elements : Option Value) : Outcome (List Issue) := do
  return (← (← elementsIn elements).mapM (issueOf embeddings)).filterMap id

/-- An issue as a record. -/
def Issue.toValue (i : Issue) : Value :=
  .record
    [("element", settle i.element), ("issueType", .text i.kind.label),
     ("confidence", ofFloat i.confidence), ("suggestion", .text i.suggestion)]

/-- How many issues of a kind there are. -/
def countOf (kind : IssueKind) (found : List Issue) : Nat :=
  (found.filter fun i => i.kind == kind).length

/-- The numbers of a report. -/
def summary (found : List Issue) : Fields :=
  [("totalIssues", .int found.length), ("missingDocs", .int (countOf .missing found)),
   ("inconsistentDocs", .int (countOf .inconsistent found))]

/-- The report on issues that were found before `now` (`generateReport`). -/
def report (now : Stamp) (found : List Issue) : Fields :=
  [("timestamp", .text (now.text ++ ".000Z")), ("issues", .list (found.map Issue.toValue)),
   ("summary", .record (summary found))]

end Scriptorium.Comment
