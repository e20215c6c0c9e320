import Scriptorium.Text.Case
import Scriptorium.Value.Access
set_option autoImplicit false

/-!
# Kinds of specifications

The kinds of documents that can be drafted, the sections that each has to have, and what the
assistant is asked to write: a specification of some kind for a project, with the code and the
documents that are there already.
-/

namespace Scriptorium.Drafting

/-- A kind of specification. -/
inductive Specification where
  | requirements
  | design
  deriving DecidableEq, Repr

/-- The kind with a name, in any case. -/
def Specification.ofName? (name : String) : Option Specification :=
  let name := Text.lower name
  if name = "srs" then some .requirements
  else if name = "sds" then some .design
  else none

/-- The kind that a value names; other values than texts have no cases. -/
def Specification.ofValue (v : Value) : Outcome (Option Specification) :=
  match v with
  | .text name => .ok (ofName? name)
  | _ => .error (.noMember v.kind.label "lower")

/-- The sections that a specification has to have. -/
def Specification.required : Specification → List String
  | requirements =>
    ["introduction", "overall description", "system features", "external interface requirements",
      "non-functional requirements"]
  | design =>
    ["introduction", "system overview", "system design considerations",
      "architectural strategies", "system architecture", "detailed system design"]

/-- The sections that a document of a named kind has to have (`_get_required_sections`); none for
unknown kinds. -/
def requiredSections (kind : Value) : Outcome (List String) := do
  match ← Specification.ofValue kind with
  | some s => return s.required
  | none => return []

/-! ## Prompts -/

/-- The first lines of a prompt. -/
def opening : Specification → String
  | .requirements => "
        Create a detailed Software Requirements Specification (SRS) document based on the following:
        
        Project Description:
        "
  | .design => "
        Create a detailed Software Design Specification (SDS) document based on the following:
        
        Project Description:
        "

/-- The sections that a specification should have, and how to write it. -/
def instructions : Specification → String
  | .requirements =>
    "\n".intercalate
    ["",
     "        ",
     "        The SRS should include the following sections:",
     "        1. Introduction",
     "           - Purpose",
     "           - Document Conventions",
     "           - Intended Audience and Reading Suggestions",
     "           - Product Scope",
     "           - References",
     "        ",
     "        2. Overall Description",
     "           - Product Perspective",
     "           - Product Features",
     "           - User Classes and Characteristics",
     "           - Operating Environment",
     "           - Design and Implementation Constraints",
     "           - User Documentation",
     "           - Assumptions and Dependencies",
     "        ",
     "        3. System Features and Requirements",
     "           - Functional Requirements",
     "           - External Interface Requirements",
     "           - System Features",
     "           - Non-Functional Requirements",
     "        ",
     "        4. Appendices",
     "           - Glossary",
     "           - Analysis Models",
     "           - Issues List",
     "        ",
     "        Format the output in markdown with appropriate headers and subheaders.",
     "        "]
  | .design =>
    "\n".intercalate
    ["",
     "        ",
     "        The SDS should include the following sections:",
     "        1. Introduction",
     "           - Purpose",
     "           - Scope",
     "           - Definitions, Acronyms, and Abbreviations",
     "           - References",
     "           ",
     "        2. System Overview",
     "           - System Architecture",
     "           - Design Constraints",
     "           ",
     "        3. System Design Considerations",
     "           - Assumptions and Dependencies",
     "           - General Constraints",
     "           - Goals and Guidelines",
     "           - Development Methods",
     "           ",
     "        4. Architectural Strategies",
     "           - Strategy 1",
     "           - Strategy 2",
     "           ",
     "        5. System Architecture",
     "           - Component 1",
     "           - Component 2",
     "           ",
     "        6. Detailed System Design",
     "           - Module 1",
     "           - Module 2",
     "           ",
     "        7. User Interface Design",
     "           - Overview of User Interface",
     "           - Screen Images",
     "           - Objects and Actions",
     "           ",
     "        8. Database Design",
     "           - Database Schema",
     "           - Data Access and Modification",
     "           ",
     "        Format the output in markdown with appropriate headers and subheaders.",
     "        "]

/-- The part of a prompt about documents that are there already. -/
def existingPart (existing : Value) : Outcome String := do
  if existing.truthy then return "Existing Documentation:\n" ++ (← existing.joined "\n---\n")
  else return ""

/-- The prompt for a specification (`_create_srs_prompt`, `_create_sds_prompt`). -/
def prompt [Halves] (kind : Specification) (description snippets existing : Value) :
    Outcome String := do
  let existing ← existingPart existing
  let snippets ← snippets.joined "\n\n"
  return opening kind ++ description.shown ++ "
        
        Code Snippets:
        " ++ snippets ++
    "
        
        " ++ existing ++ instructions kind

end Scriptorium.Drafting
