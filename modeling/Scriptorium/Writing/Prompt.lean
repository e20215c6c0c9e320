import Scriptorium.Value.Access
set_option autoImplicit false

/-!
# Prompts for whole documents

The two turns of the conversation in which the assistant writes a document: who it is, and what
the project and its code are.
-/

namespace Scriptorium.Writing

variable [Halves]

/-- Who the assistant is when it writes requirements (`_get_srs_system_prompt`). -/
def requirementsWriter : String :=
  "\n".intercalate
    ["You are a technical writer specializing in creating comprehensive Software Requirements " ++
      "Specification (SRS) documents. ",
     "        Your task is to generate a well-structured SRS document based on the provided " ++
      "project description and code snippets.",
     "        The SRS should follow standard IEEE 830 format and include the following sections:",
     "        1. Introduction",
     "           1.1 Purpose",
     "           1.2 Document Conventions",
     "           1.3 Intended Audience and Reading Suggestions",
     "           1.4 Project Scope",
     "        2. Overall Description",
     "           2.1 Product Perspective",
     "           2.2 Product Features",
     "           2.3 User Classes and Characteristics",
     "           2.4 Operating Environment",
     "           2.5 Design and Implementation Constraints",
     "        3. System Features and Requirements",
     "           3.1 Functional Requirements",
     "           3.2 Non-Functional Requirements",
     "        4. External Interface Requirements",
     "           4.1 User Interfaces",
     "           4.2 Hardware Interfaces",
     "           4.3 Software Interfaces",
     "           4.4 Communication Protocols",
     "        5. Other Non-Functional Requirements",
     "           5.1 Performance Requirements",
     "           5.2 Safety Requirements",
     "           5.3 Security Requirements",
     "        ",
     "        Make sure the document is clear, concise, and technically accurate. Use markdown " ++
      "formatting with appropriate headings, lists, and code blocks where necessary."]

/-- Who the assistant is when it writes a design (`_get_sds_system_prompt`). -/
def designWriter : String :=
  "\n".intercalate
    ["You are a software architect specializing in creating detailed Software Design " ++
      "Specification (SDS) documents.",
     "        Your task is to generate a comprehensive SDS document based on the provided " ++
      "project description and code snippets.",
     "        The SDS should follow standard IEEE 1016 format and include the following sections:",
     "        1. Introduction",
     "           1.1 Purpose",
     "           1.2 Scope",
     "           1.3 Definitions, Acronyms, and Abbreviations",
     "        2. System Architecture",
     "           2.1 System Overview",
     "           2.2 Architectural Design",
     "           2.3 Component Diagrams",
     "        3. Detailed Design",
     "           3.1 Module/Component Descriptions",
     "           3.2 Class Diagrams",
     "           3.3 Data Models",
     "           3.4 User Interface Design",
     "        4. Data Design",
     "           4.1 Data Structures",
     "           4.2 Database Schema",
     "        5. Interface Design",
     "           5.1 User Interfaces",
     "           5.2 External APIs",
     "           5.3 Internal Interfaces",
     "        6. Non-Functional Requirements",
     "           6.1 Performance",
     "           6.2 Security",
     "           6.3 Reliability",
     "        7. Implementation Details",
     "           7.1 Development Environment",
     "           7.2 Dependencies",
     "           7.3 Build and Deployment",
     "        ",
     "        Use markdown formatting with appropriate headings, code blocks, and diagrams in " ++
      "mermaid format where applicable."]

/-- Who the assistant is when it writes a document of some kind. -/
def writer (kind : String) : String := if kind = "srs" then requirementsWriter else designWriter

/-- A line about a snippet, if it has a value for it. -/
def labelled (snippet : Value) (name label : String) : Outcome String := do
  if !(← snippet.holdsName name) then return ""
  let v ← snippet.entry name
  if !v.truthy then return ""
  return s!"**{label}:** {v.shown}\n"

/-- The part of a prompt about one snippet. -/
def snippetPart (index : Nat) (snippet : Value) : Outcome String := do
  let file ← labelled snippet "file_path" "File"
  let language ← labelled snippet "language" "Language"
  let mark ← snippet.getOr "language" (.text "")
  let content ← snippet.entry "content"
  return s!"\n## Snippet {index}\n" ++ file ++ language ++
    s!"```{mark.shown}\n{content.shown}\n```\n"

/-- The parts about all snippets, counted from one. -/
def snippetParts : Nat → List Value → Outcome String
  | _, [] => .ok ""
  | index, snippet :: rest => do
    let part ← snippetPart index snippet
    return part ++ (← snippetParts (index + 1) rest)

/-- The last lines of a prompt. -/
def closing : String :=
  "\nPlease generate a comprehensive document based on the above information.\n" ++
    "Ensure the document is well-structured, clear, and technically accurate.\n"

/-- What the assistant is told about a project (`_prepare_user_message`). -/
def brief (description snippets context : Value) : Outcome String := do
  let parts ← snippetParts 1 (← snippets.items)
  let context := if context.truthy then s!"\n# Additional Context\n{context.shown}\n" else ""
  return s!"# Project Description\n{description.shown}\n\n# Code Snippets\n" ++ parts ++ context ++
    closing

end Scriptorium.Writing
