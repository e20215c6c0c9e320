import Scriptorium.Fault
import Scriptorium.Text.Numeral
set_option autoImplicit false

/-!
# References

The name of a field refers to a value: it starts with the name of a binding and goes on with
members after points and items in brackets.
-/

namespace Scriptorium.Pattern

/-- One step from a value to a part of it. -/
inductive Step where
  | member (name : List Char)
  | item (key : List Char)
  deriving DecidableEq, Repr

/-- The largest number that a pattern may spell. -/
def largestIndex : Nat := Nat.pow 2 63 - 1

/-- Reads digits of any script, up to the first other character. -/
def readDigits (n : Nat) : List Char → Except Flaw (Nat × List Char)
  | [] => .ok (n, [])
  | c :: rest =>
    match Text.digitValue? c with
    | none => .ok (n, c :: rest)
    | some d =>
      if largestIndex < 10 * n + d then .error .manyDigits else readDigits (10 * n + d) rest

/-- The number a name spells, if it does. -/
def indexOf? (name : List Char) : Except Flaw (Option Nat) :=
  if name.isEmpty then .ok none
  else (readDigits 0 name).map fun (n, rest) => if rest.isEmpty then some n else none

/-- Whether a character starts a step. -/
def startsStep (c : Char) : Bool := c == '.' || c == '['

/-- The steps after the first name, up to the first flaw.  The fuel is the number of characters. -/
def steps : Nat → List Char → List Step × Option Flaw
  | _, [] => ([], none)
  | 0, _ => ([], none)
  | fuel + 1, c :: rest =>
    let go (step : Step) (name rest : List Char) : List Step × Option Flaw :=
      if name.isEmpty then ([], some .emptyStep)
      else
        let (found, flaw) := steps fuel rest
        (step :: found, flaw)
    if c = '.' then
      let name := rest.takeWhile fun c => !startsStep c
      go (.member name) name (rest.dropWhile fun c => !startsStep c)
    else if c = '[' then
      let key := rest.takeWhile (· != ']')
      match rest.dropWhile (· != ']') with
      | [] => ([], some .noBracket)
      | _ :: rest => go (.item key) key rest
    else ([], some .afterBracket)

/-- The value bound to a name. -/
def bound (bindings : Fields) (name : List Char) : Outcome Value := do
  match indexOf? name with
  | .error flaw => throw (.pattern flaw)
  | .ok (some index) => throw (.pattern (.position index))
  | .ok none =>
    if name.isEmpty then throw (.pattern (.position 0))
    let name := String.ofList name
    match Fields.get? bindings name with
    | some v => return v
    | none => throw (.missingKey (.text name))

/-- The members of numbers. -/
def member? (v : Value) (name : String) : Option Value :=
  match v with
  | .int n => if name = "real" ∨ name = "numerator" then some (.int n)
    else if name = "imag" then some (.int 0)
    else if name = "denominator" then some (.int 1)
    else none
  | .bool b => if name = "real" ∨ name = "numerator" then some (.int (if b then 1 else 0))
    else if name = "imag" then some (.int 0)
    else if name = "denominator" then some (.int 1)
    else none
  | .float x => if name = "real" then some (.float x)
    else if name = "imag" then some (.float 0)
    else none
  | _ => none

/-- The item of a value at a position. -/
def itemAt (v : Value) (index : Nat) : Outcome Value :=
  match v with
  | .text s => match s.toList[index]? with
    | some c => .ok (.text (String.singleton c))
    | none => .error .textRange
  | .list items => match items[index]? with
    | some item => .ok item
    | none => .error .listRange
  | .record _ => .error (.missingKey (.int index))
  | _ => .error (.notSubscriptable v.kind)

/-- The item of a value under a name. -/
def itemNamed (v : Value) (name : String) : Outcome Value :=
  match v with
  | .text _ => .error (.textIndexedBy .text)
  | .list _ => .error (.listIndexedBy .text)
  | .record fields => match Fields.get? fields name with
    | some item => .ok item
    | none => .error (.missingKey (.text name))
  | _ => .error (.notSubscriptable v.kind)

/-- Takes one step. -/
def follow (v : Value) (step : Step) : Outcome Value :=
  match step with
  | .member name =>
    match member? v (String.ofList name) with
    | some part => .ok part
    | none => .error (.noMember v.kind.label (String.ofList name))
  | .item key =>
    match indexOf? key with
    | .error flaw => .error (.pattern flaw)
    | .ok (some index) => itemAt v index
    | .ok none => itemNamed v (String.ofList key)

/-- The value a name refers to. -/
def refer (bindings : Fields) (name : List Char) : Outcome Value := do
  let first := name.takeWhile fun c => !startsStep c
  let rest := name.dropWhile fun c => !startsStep c
  let start ← bound bindings first
  let (path, flaw) := steps rest.length rest
  let target ← path.foldlM follow start
  match flaw with
  | some flaw => throw (.pattern flaw)
  | none => return target

end Scriptorium.Pattern
