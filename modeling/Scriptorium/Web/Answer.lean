import Scriptorium.Status
import Scriptorium.Web.Param
set_option autoImplicit false

/-!
# Answers

What a request is answered: a status with a body, a redirection, or the report of a fault that
nothing has handled.
-/

namespace Scriptorium.Web

open Schema

/-- An answer. -/
structure Answer where
  status : Nat
  body : Option Value := none
  text : Option String := none
  location : Option String := none
  /-- How callers should show who they are. -/
  challenge : Option String := none
  /-- The fault that nothing has handled. -/
  raised : Option Fault := none
  deriving Repr

/-- How an application reports refusals. -/
inductive Manner where
  /-- The detail alone; callers who are not known are told what to show. -/
  | plain
  /-- The detail and the status. -/
  | repeated
  deriving DecidableEq, Repr

namespace Answer

/-- The answer to a request that is refused. -/
def refusal (manner : Manner) (status : Nat) (detail : Value) : Answer :=
  match manner with
  | .plain =>
    { status, body := some (.record [("detail", detail)])
      challenge := if status = 401 then some "Bearer" else none }
  | .repeated => { status, body := some (Report.withDetail (.int status) detail).body }

/-- The answer to a request whose parameters are at fault (`validation_exception_handler`). -/
def unprocessable [Halves] (manner : Manner) (findings : List Finding) : Answer :=
  refusal manner 422 (.list (findings.map Finding.toValue))

/-- The answer of an application that has met a fault it does not handle. -/
def broken (f : Fault) : Answer :=
  { status := 500, text := some "Internal Server Error", raised := some f }

/-- The answer to a fault. -/
def ofFault (manner : Manner) : Fault → Answer
  | .refused status detail => refusal manner status detail
  | f => broken f

/-- The answer to a request with a code's phrase for its detail. -/
def phrased (manner : Manner) (status : Nat) : Answer :=
  refusal manner status (.text ((statusPhrases.lookup status).getD ""))

/-- The redirection to an address. -/
def redirect (address : String) : Answer :=
  { status := 307, location := some (quoteAddress address) }

end Answer

/-! ## Results in their forms -/

/-- The parts that a form takes from a row: all its fields, for a row has every column. -/
def rowParts (name : FormName) (row : Row) : Fields :=
  (Forms.form name).fields.map fun field => (field.key, Row.get row field.key)

/-- Checks a row as a result. -/
def checkRow [Halves] (now : Stamp) (name : FormName) (place : List Value) (row : Row) :
    Read Value :=
  if (Forms.form name).takesMembers then
    (fun r => .record r.1) <$>
      checkParts Forms.form now (Forms.form name) place (rowParts name row) 0
  else .error [⟨place, .notRecord⟩]

/-- Checks several rows as a result. -/
def checkRows [Halves] (now : Stamp) (name : FormName) (place : List Value) (rows : Table) :
    Read Value :=
  let check (item : Row × Nat) (taken : Nat) : Checked Value :=
    match checkRow now name (place ++ [.int item.2]) item.1 with
    | .ok v => .ok (v, taken)
    | .error findings => .error findings
  (fun r => .list r.1) <$> gather check rows.zipIdx 0

/-- Checks a result against the form it should have. -/
def checkResult [Halves] (now : Stamp) (shown : Shown) (result : Result) : Read Value :=
  let place : List Value := [.text "response"]
  match shown, result with
  | .one name, .value v => checkOne now (.form name) place v
  | .many name, .value v => checkOne now (.list (.form name)) place v
  | .one name, .row r => checkRow now name place r
  | .many name, .rows rs => checkRows now name place rs
  | _, .value v => .ok v
  | _, .row r => .ok (.record r)
  | _, .rows rs => .ok (.list (rs.map .record))
  | _, .final _ v => .ok v

mutual

/-- A checked value of a shape with its fields under their keys. -/
def keyed : Nat → Shape FormName → Value → Value
  | 0, _, v => v
  | fuel + 1, .form name, .record fields => .record (keyedFields fuel (Forms.fields name) fields)
  | fuel + 1, .list item, .list items => .list (items.map (keyed fuel item))
  | _ + 1, _, v => v

/-- Checked fields under their keys. -/
def keyedFields : Nat → List (Slot FormName) → Fields → Fields
  | 0, _, fields => fields
  | fuel + 1, form, fields => fields.map fun (name, v) =>
    match form.find? (·.name = name) with
    | some field => (field.key, keyed fuel field.shape v)
    | none => (name, v)

end

/-- A checked result with its fields under their keys. -/
def keyedResult (shown : Shown) (v : Value) : Value :=
  let fuel := 3 * v.depth + 4
  match shown with
  | .one name => keyed fuel (.form name) v
  | .many name => keyed fuel (.list (.form name)) v
  | .plain => v

mutual

/-- A value without the fields whose names are kept for the store. -/
def exposed : Value → Value
  | .list items => .list (exposedItems items)
  | .record fields => .record (exposedFields fields)
  | v => v

/-- The items of a list, exposed. -/
def exposedItems : List Value → List Value
  | [] => []
  | v :: rest => exposed v :: exposedItems rest

/-- The fields of a record whose names do not begin with the store's mark. -/
def exposedFields : List (String × Value) → List (String × Value)
  | [] => []
  | (name, v) :: rest =>
    if "_sa".toList.isPrefixOf name.toList then exposedFields rest
    else (name, exposed v) :: exposedFields rest

end

/-- An answer as it is sent. -/
def Answer.sent [Halves] (a : Answer) : Answer :=
  match a.body.bind Json.unsendable? with
  | some f => .broken f
  | none => a

end Scriptorium.Web
