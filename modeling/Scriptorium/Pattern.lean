import Scriptorium.Pattern.Figure
import Scriptorium.Pattern.Piece
set_option autoImplicit false

/-!
# Filling patterns

`Pattern.fill` replaces every field of a pattern by the value it refers to, converted and laid
out as the field asks.  A layout with fields of its own is filled first, one level deep.
-/

namespace Scriptorium.Pattern

variable [Halves]

/-- A value after the conversion of a field. -/
def convert (v : Value) : Option Char → Outcome Value
  | none => .ok v
  | some 'r' => .ok (.text v.literal)
  | some 's' => .ok (.text v.shown)
  | some 'a' => .ok (.text (Text.escapeBeyondAscii v.literal))
  | some c => .error (.pattern (.conversion c))

/-- The text of a piece; `inner` fills layouts with fields. -/
def fillPiece (inner : List Char → Outcome String) (bindings : Fields) : Piece → Outcome String
  | .literal text => .ok (String.ofList text)
  | .field name conversion layout => do
    let v ← refer bindings name
    let v ← convert v conversion
    let layout ← if layout.contains '\x7b' then (·.toList) <$> inner layout else pure layout
    match lay layout v with
    | .ok text => return text
    | .error flaw => throw (.pattern flaw)

/-- Fills a pattern that may nest as deep as given. -/
def fillDeep : Nat → Fields → List Char → Outcome String
  | 0, _, _ => .error (.pattern .tooDeep)
  | depth + 1, bindings, cs => do
    let (found, flaw) := pieces cs
    let texts ← found.mapM (fillPiece (fillDeep depth bindings) bindings)
    match flaw with
    | some flaw => throw (.pattern flaw)
    | none => return String.join texts

/-- Fills a pattern with bound values. -/
def fill (bindings : Fields) (s : String) : Outcome String := fillDeep 2 bindings s.toList

end Scriptorium.Pattern
