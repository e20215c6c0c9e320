import Scriptorium.Assistant
import Scriptorium.Drafting.Consistency
import Scriptorium.Drafting.Quality
import Scriptorium.Drafting.Specification
set_option autoImplicit false

/-!
# Drafting specifications

A draft is asked for, measured and returned with its measures.  Any failure on the way is the same
fault.
-/

namespace Scriptorium.Drafting

variable [Halves]

/-- What the assistant is asked for a draft. -/
def request (prompt : String) : Request where
  model := "gpt-4"
  messages :=
    [⟨"system", "You are a professional technical writer and software engineer."⟩, ⟨"user", prompt⟩]
  temperature := 0.7
  maxTokens := 2000

/-- The prompt for a document whose kind is named by a value. -/
def promptFor (kind description snippets existing : Value) : Outcome String := do
  match ← Specification.ofValue kind with
  | some s => prompt s description snippets existing
  | none => throw (.reported s!"Unsupported document type: {kind.shown}")

/-- A draft and its measures. -/
def finish (kind : Value) (reply : Reply) (now : Stamp) : Outcome Value := do
  let document := Value.ofText? (← reply.firstDraft)
  let measures := quality document kind now
  let advice ← advise measures
  return .record [("status", .text "success"), ("document", document), ("analysis", measures),
    ("suggestions", advice)]

/-- Drafts a document (`generate_document`): what the assistant was asked, and the result. -/
def draft (kind description snippets existing : Value) (reply : Reply) (now : Stamp) :
    List Request × Outcome Value :=
  let failed : Outcome Value := .error (.unbound "HTTPException")
  match promptFor kind description snippets existing with
  | .error _ => ([], failed)
  | .ok prompt =>
    ([request prompt], match finish kind reply now with
      | .ok v => .ok v
      | .error _ => failed)

end Scriptorium.Drafting
