import Scriptorium.Comment.Space
import Scriptorium.Decimal.Notation
import Scriptorium.Decimal.Scan
import Scriptorium.Fault
import Scriptorium.Text.Half
import Scriptorium.Text.Numeral
set_option autoImplicit false

/-!
# Loosely typed trees

Syntax trees and embeddings come from other programs, and nothing is known about their form.
A member of a value may be absent, `none`; only nothing at all has no members.  All numbers
are floats, and whole ones are written without a point.  Every value has a text and a number,
but for records that have a member called `toString`: nothing else says how to show those.
-/

namespace Scriptorium.Comment.Loose

variable [Halves]

/-! ## Members -/

/-- The 16-bit units of a text. -/
def units (s : String) : List Nat := s.toList.flatMap Text.Half.units

/-- The text of a sequence of units. -/
def ofUnits (us : List Nat) : String := String.ofList (Text.Half.ofUnits us)

/-- The units from place `start` up to place `stop`. -/
def slice (start stop : Nat) (us : List Nat) : List Nat := (us.take stop).drop start

/-- The place in a list that a name stands for: a number without needless zeros. -/
def place? (name : String) : Option Nat :=
  match name.toList with
  | ['0'] => some 0
  | c :: rest =>
    if c != '0' && (c :: rest).all Char.isDigit then
      some (Decimal.natOf ((c :: rest).map (·.toNat - 48)))
    else none
  | [] => none

/-- A member of a value that may be absent. -/
def member (v : Option Value) (name : String) : Outcome (Option Value) :=
  match v with
  | none => .error (.memberOfNothing "undefined" name)
  | some .null => .error (.memberOfNothing "null" name)
  | some (.record fields) => .ok (Fields.get? fields name)
  | some (.list items) =>
    if name = "length" then .ok (some (.int items.length)) else .ok ((place? name).bind (items[·]?))
  | some (.text s) =>
    if name = "length" then .ok (some (.int (units s).length))
    else .ok ((place? name).bind fun i => ((units s)[i]?).map fun u => .text (ofUnits [u]))
  | some _ => .ok none

/-- A member of a value that may be nothing at all; nothing has none. -/
def member? (v : Option Value) (name : String) : Option Value :=
  match member v name with
  | .ok found => found
  | .error _ => none

/-- Whether a value counts as true: the empty list and the empty record do. -/
def truthy : Option Value → Bool
  | none | some .null => false
  | some (.bool b) => b
  | some (.int n) => n != 0
  | some (.float x) => !(x == 0 || x.isNaN)
  | some (.text s) => !s.isEmpty
  | some _ => true

/-! ## Text -/

/-- Floats in texts: positional between `1e-7` and `1e21`, a whole number has no point. -/
def floatStyle : Decimal.Style := ⟨-6, 21, false, 1, "NaN", "Infinity"⟩

mutual

/-- The text of a value. -/
def shown : Value → Outcome String
  | .null => .ok "null"
  | .bool b => .ok (if b then "true" else "false")
  | .int n => .ok (floatStyle.write (Decimal.ofInt n))
  | .float x => .ok (if x == 0 then "0" else floatStyle.write x)
  | .text s => .ok s
  | .list items => do return ",".intercalate (← shownItems items)
  | .record fields =>
    if Fields.has fields "toString" then .error .notPrimitive else .ok "[object Object]"
  | .ident i => .ok i.text
  | .stamp s => .ok s.text

/-- The texts of the items of a list; nothing has no text there. -/
def shownItems : List Value → Outcome (List String)
  | [] => .ok []
  | .null :: rest => do return "" :: (← shownItems rest)
  | v :: rest => do
    let s ← shown v
    return s :: (← shownItems rest)

end

/-- The text of a value that may be absent. -/
def shown? : Option Value → Outcome String
  | some v => shown v
  | none => .ok "undefined"

/-! ## Numbers -/

/-- The number that digits in a base spell; no number without digits. -/
def inBase (base : Nat) (cs : List Char) : Float :=
  let digits := cs.mapM fun c => (Text.hexValue? c).filter (· < base)
  match digits with
  | some (d :: ds) => Decimal.ofInt ((d :: ds).foldl (fun n d => base * n + d) 0 : Nat)
  | _ => 0 / 0

/-- The number that a text stands for between blanks: a decimal or `Infinity`, both with or
without a sign, or a number in one of the bases 16, 8 and 2 behind its mark.  A text of blanks
is zero. -/
def numberOf (s : String) : Float :=
  match strip s.toList with
  | [] => 0
  | '0' :: 'x' :: rest | '0' :: 'X' :: rest => inBase 16 rest
  | '0' :: 'o' :: rest | '0' :: 'O' :: rest => inBase 8 rest
  | '0' :: 'b' :: rest | '0' :: 'B' :: rest => inBase 2 rest
  | cs =>
    let (negative, body) := Text.signOf cs
    let x := if body = "Infinity".toList then 1 / 0 else (Text.decimal? body).getD (0 / 0)
    if negative then -x else x

/-- A value as a number; that of a list is the number of its text. -/
def number : Option Value → Outcome Float
  | none => .ok (0 / 0)
  | some .null => .ok 0
  | some (.bool b) => .ok (if b then 1 else 0)
  | some (.int n) => .ok (Decimal.ofInt n)
  | some (.float x) => .ok x
  | some v => do return numberOf (← shown v)

/-- A float as a value: a whole number of up to 21 digits is whole, of which the shortest
digits that read back are kept. -/
def ofFloat (x : Float) : Value :=
  match Decimal.read x with
  | .finite b =>
    if b.mantissa = 0 then .int 0
    else
      let d := Decimal.shortest b
      let n : Int := Decimal.natOf d.digits * Int.pow 10 (d.point - d.digits.length).toNat
      if (d.digits.length : Int) ≤ d.point ∧ d.point ≤ 21 then .int (if b.negative then -n else n)
      else .float x
  | _ => .float x

/-- The greatest whole number below which every whole number is a float. -/
def exactLimit : Nat := 9007199254740992

mutual

/-- A value with its numbers written as floats are. -/
def settle : Value → Value
  | .int n => if n.natAbs ≤ exactLimit then .int n else ofFloat (Decimal.ofInt n)
  | .float x => ofFloat x
  | .list items => .list (settleItems items)
  | .record fields => .record (settleFields fields)
  | v => v

/-- The items of a list, settled. -/
def settleItems : List Value → List Value
  | [] => []
  | v :: rest => settle v :: settleItems rest

/-- The fields of a record, settled. -/
def settleFields : List (String × Value) → List (String × Value)
  | [] => []
  | (name, v) :: rest => (name, settle v) :: settleFields rest

end

end Scriptorium.Comment.Loose
