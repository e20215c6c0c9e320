import Scriptorium.Source.Format
import Scriptorium.Source.Outline
import Scriptorium.Fault
import Scriptorium.Value.Pairs
set_option autoImplicit false

/-!
# The structure of a file

Scripts are outlined.  Files of other supported formats have no outline and are reported with
a warning; a Python file is reported with the cause that keeps it from being analysed.
-/

namespace Scriptorium.Source

/-- What is known about the inside of a file. -/
inductive Structure where
  | outlined (format : Format) (outline : Outline)
  | failed (format : Format) (cause : Fault)
  | opaqueFile (format : Format)

/-- The format that a suffix stands for, if it is a known one. -/
def Format.find? (suffix : Value) : Outcome (Option Format) :=
  match suffix with
  | .text s => .ok (ofSuffix? s)
  | other => if other.isScalar then .ok none else .error (.unhashable other.kind)

/-- The format that a suffix has to stand for. -/
def Format.find (suffix : Value) : Outcome Format := do
  match ← find? suffix with
  | some format => return format
  | none => throw (.missingKey suffix)

/-- The structure of a script. -/
def scriptStructure (format : Format) : Value → Structure
  | .text s => .outlined format (outline s.toList)
  | other => .failed format (.notScanned other.kind)

/-- The structure of a file with a given suffix (`_analyze_code_structure`). -/
def structureOf (content suffix : Value) : Outcome Structure := do
  match ← Format.find suffix with
  | .python => return .failed .python (.unbound "ast")
  | .javascript => return scriptStructure .javascript content
  | .typescript => return scriptStructure .typescript content
  | format => return .opaqueFile format

/-- The name of a function form in reports. -/
def FunctionForm.label : FunctionForm → String
  | .declaration => "function"
  | .arrow => "arrow_function"

/-- A function as a record. -/
def FunctionItem.toValue (f : FunctionItem) : Value :=
  .record [("name", .text f.name), ("line", .int f.line), ("has_docstring", .bool f.documented),
    ("type", .text f.form.label)]

/-- A class as a record. -/
def ClassItem.toValue (c : ClassItem) : Value :=
  .record [("name", .text c.name), ("line", .int c.line), ("has_docstring", .bool c.documented)]

/-- An import as a record. -/
def ImportItem.toValue (i : ImportItem) : Value :=
  .record [("module", .text i.unit), ("line", .int i.line)]

/-- An outline as a record. -/
def Outline.toValue (o : Outline) (format : Format) : Value :=
  .record [("language", .text format.name),
    ("functions", .list (o.functions.map (·.toValue))),
    ("classes", .list (o.classes.map (·.toValue))),
    ("imports", .list (o.imports.map (·.toValue))),
    ("docstrings", .list (o.comments.map .text)),
    ("metrics", .record [("function_count", .int o.functions.length),
      ("class_count", .int o.classes.length), ("import_count", .int o.imports.length),
      ("docstring_coverage", .float o.share)])]

/-- A structure as a record. -/
def Structure.toValue [Halves] : Structure → Value
  | outlined format o => o.toValue format
  | failed format cause =>
    .record [("file_type", .text format.name), ("error", .text cause.message)]
  | opaqueFile format => .record [("file_type", .text format.name),
      ("warning", .text "No specific analyzer available for this file type")]

end Scriptorium.Source
