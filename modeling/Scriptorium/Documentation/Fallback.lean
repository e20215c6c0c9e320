import Scriptorium.Value.Access
set_option autoImplicit false

/-!
# Documentation without an assistant

Without an assistant a file gets a short notice, and a Python file a summary of the functions
and classes that its structure lists.
-/

namespace Scriptorium.Documentation

variable [Halves]

/-- A line with the documentation of an element, if it has some. -/
def docLine (element : Value) (indent : String) : Outcome String := do
  let doc ← element.getOr "docstring" .null
  if doc.truthy then
    return indent ++ (← element.entry "docstring").shown ++ "\n"
  else return ""

/-- The summary of a function. -/
def functionSummary (f : Value) : Outcome String := do
  let name ← f.entry "name"
  let doc ← docLine f ""
  let parameters ← (← f.getOr "args" (.list [])).joined ", "
  let returns ←
    if ← f.holdsName "returns" then
      pure ("- **Returns:** " ++ (← f.entry "returns").shown ++ "\n")
    else pure ""
  return "### " ++ name.shown ++ "\n" ++ doc ++ "- **Parameters:** " ++ parameters ++ "\n" ++
    returns ++ "\n"

/-- The summary of a method. -/
def methodSummary (m : Value) : Outcome String := do
  let name ← m.entry "name"
  return "- **" ++ name.shown ++ "**\n" ++ (← docLine m "  ")

/-- The summary of a class. -/
def classSummary (c : Value) : Outcome String := do
  let name ← c.entry "name"
  let doc ← docLine c ""
  let listed ← c.getOr "methods" .null
  let methods ←
    if listed.truthy then
      pure ("#### Methods\n" ++ String.join (← (← listed.items).mapM methodSummary))
    else pure ""
  return "### " ++ name.shown ++ "\n" ++ doc ++ methods

/-- A heading with the summaries of the elements a structure lists under `name`; nothing if it
lists none. -/
def summaries (structure' : Value) (name heading : String) (summary : Value → Outcome String) :
    Outcome String := do
  let listed ← structure'.getOr name .null
  if listed.truthy then
    return heading ++ String.join (← (← listed.items).mapM summary)
  else return ""

/-- The summary of a Python file (`_generate_python_fallback_doc`). -/
def moduleSummary (structure' : Value) : Outcome String := do
  let doc ← structure'.getOr "docstring" .null
  let intro := if doc.truthy then "\n" ++ doc.shown ++ "\n" else ""
  let functions ← summaries structure' "functions" "## Functions\n" functionSummary
  let classes ← summaries structure' "classes" "## Classes\n" classSummary
  return "# Python Module Documentation\n" ++ intro ++ functions ++ classes

/-- The notice that a file has no generated documentation. -/
def notice (suffix : Value) : String :=
  "# Documentation for " ++ suffix.shown ++ " file\n\n" ++
  "This is a fallback documentation generated because the OpenAI API key is not configured.\n\n" ++
  "To enable AI-generated documentation, please set the OPENAI_API_KEY environment variable.\n"

/-- Documentation without an assistant (`_generate_fallback_documentation`). -/
def fallback (suffix structure' : Value) : Outcome String :=
  match suffix with
  | .text ".py" => moduleSummary structure'
  | other => .ok (notice other)

end Scriptorium.Documentation
