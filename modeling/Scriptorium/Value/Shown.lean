import Scriptorium.Value
import Scriptorium.Decimal.Notation
import Scriptorium.Text.Quoted
set_option autoImplicit false

/-!
# Values as text

A value is shown in documents and messages as its literal; a text is shown as itself.  The
literal of a text is the text in quotes, and the literals of lists and records hold the
literals of what is inside.
-/

namespace Scriptorium.Value

variable [Halves]

mutual

/-- The literal of a value. -/
def literal : Value → String
  | null => "None"
  | bool b => if b then "True" else "False"
  | int n => Decimal.wholeText n
  | float x => Decimal.plain.write x
  | text s => Text.quoted s
  | ident i => i.text
  | stamp t => t.text
  | list items => "[" ++ ", ".intercalate (literalItems items) ++ "]"
  | record fields => "\x7b" ++ ", ".intercalate (literalFields fields) ++ "\x7d"

/-- The literals of items. -/
def literalItems : List Value → List String
  | [] => []
  | item :: rest => literal item :: literalItems rest

/-- The literals of fields. -/
def literalFields : List (String × Value) → List String
  | [] => []
  | (name, value) :: rest =>
    ((Key.unmarked? name).getD (Text.quoted name) ++ ": " ++ literal value) :: literalFields rest

end

/-- A value as it is shown. -/
def shown : Value → String
  | text s => s
  | v => literal v

end Scriptorium.Value
