import Scriptorium.Text.Blank
import Scriptorium.Value.Access
set_option autoImplicit false

/-!
# Grammar and style

An outside checker marks passages of a text.  Each mark becomes an issue with a severity and at
most five replacements.
-/

namespace Scriptorium.Grammar

/-- How bad an issue is. -/
inductive Severity where
  | error
  | warning
  | info
  deriving DecidableEq, Repr

/-- The name of a severity. -/
def Severity.name : Severity → String
  | error => "error"
  | warning => "warning"
  | info => "info"

/-- The severity of a type of issue (`_get_severity`). -/
def severityOf (type : Value) : Severity :=
  match type with
  | .text s =>
    if s = "misspelling" ∨ s = "grammar" then .error
    else if s = "typographical" ∨ s = "style" then .warning
    else .info
  | _ => .info

/-- A member of a mark. -/
def member (mark : Value) (name : String) : Outcome Value :=
  match mark.field? name with
  | some v => .ok v
  | none => .error (.noMember "types.SimpleNamespace" name)

/-- The number of replacements that are kept. -/
def mostReplacements : Nat := 5

/-- The issue of a mark. -/
def issueOf (mark : Value) : Outcome Value := do
  let message ← member mark "message"
  let context ← member mark "context"
  let offset ← member mark "offset"
  let length ← member mark "errorLength"
  let replacements ← (← member mark "replacements").firstItems mostReplacements
  let rule ← member mark "ruleId"
  let category ← member mark "category"
  let type ← member mark "ruleIssueType"
  return .record [("message", message), ("context", context), ("offset", offset),
    ("length", length), ("replacements", replacements), ("rule_id", rule),
    ("category", category), ("severity", .text (severityOf type).name)]

/-- The issues of a text that the checker has marked (`check_grammar`); a text without characters
has none. -/
def check (text : Value) (marks : List Value) : Outcome (List Value) :=
  if text.truthy then marks.mapM issueOf else .ok []

/-- Whether there is nothing to check. -/
def isVoid (text : Value) : Outcome Bool :=
  match text with
  | .text s => .ok (Text.trim s).isEmpty
  | v => if v.truthy then .error (.noMember v.kind.label "strip") else .ok true

/-- The answer to a request to check a text. -/
def report [Halves] (text : Value) (marks : List Value) : Outcome Value :=
  let found : Outcome Value := do
    if ← isVoid text then
      return .record [("status", .text "success"), ("issues", .list []), ("issue_count", .int 0),
        ("message", .text "No text provided for grammar check")]
    let issues ← check text marks
    return .record [("status", .text "success"), ("issues", .list issues),
      ("issue_count", .int issues.length)]
  match found with
  | .ok v => .ok v
  | .error f => .error (.refused 500 (.text s!"Failed to check grammar: {f.message}"))

end Scriptorium.Grammar
