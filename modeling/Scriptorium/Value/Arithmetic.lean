import Scriptorium.Fault
import Scriptorium.Text.Half
import Scriptorium.Text.Numeral
set_option autoImplicit false

/-!
# Arithmetic on values

Numbers are added, multiplied and compared; a text or list may be repeated by a whole number
or joined to another of its kind.  Every other pair of kinds has its own cause of failure.
-/

namespace Scriptorium

namespace Number

/-- Combines two numbers: whole numbers exactly, all others as floats. -/
def combine (whole : Int → Int → Int) (real : Float → Float → Float) (a b : Number) : Number :=
  match a, b with
  | .whole m, .whole n => .whole (whole m n)
  | a, b => .real (real a.toFloat b.toFloat)

/-- The sum. -/
def add : Number → Number → Number := combine (· + ·) (· + ·)

/-- The difference. -/
def sub : Number → Number → Number := combine (· - ·) (· - ·)

/-- The product. -/
def mul : Number → Number → Number := combine (· * ·) (· * ·)

/-- The quotient, always a float. -/
def div (a b : Number) : Number := .real (a.toFloat / b.toFloat)

end Number

namespace Value

/-- The items of `xs`, `count` times over. -/
def repeated {α : Type} (xs : List α) (count : Int) : List α :=
  (List.replicate count.toNat xs).flatten

/-- The whole number that a value counts as. -/
def whole? : Value → Option Int
  | int n => some n
  | bool b => some (if b then 1 else 0)
  | _ => none

/-- The fault of a whole number that no float is near to. -/
def noFloat : Fault := .outOfRange "int too large to convert to float"

/-- The product of two values. -/
def times (a b : Value) : Outcome Value :=
  match a.number?, b.number? with
  | some x, some y => if x.mixes y then .ok (ofNumber (x.mul y)) else .error noFloat
  | _, _ =>
    match a, b with
    | text s, _ => match b.whole? with
      | some n => .ok (text (String.ofList (repeated s.toList n)))
      | none => .error (.notRepeated b.kind)
    | list xs, _ => match b.whole? with
      | some n => .ok (list (repeated xs n))
      | none => .error (.notRepeated b.kind)
    | _, text s => match a.whole? with
      | some n => .ok (text (String.ofList (repeated s.toList n)))
      | none => .error (.notRepeated a.kind)
    | _, list xs => match a.whole? with
      | some n => .ok (list (repeated xs n))
      | none => .error (.notRepeated a.kind)
    | _, _ => .error (.notCombined "*" a.kind b.kind)

/-- The sum of two values. -/
def plus (a b : Value) : Outcome Value :=
  match a.number?, b.number? with
  | some x, some y => if x.mixes y then .ok (ofNumber (x.add y)) else .error noFloat
  | _, _ =>
    match a, b with
    | text s, text t => .ok (text (s ++ t))
    | list xs, list ys => .ok (list (xs ++ ys))
    | text _, _ | list _, _ => .error (.notConcatenated a.kind b.kind)
    | _, _ => .error (.notCombined "+" a.kind b.kind)

/-- Whether `a` is at least the number `b`. -/
def atLeast (a : Value) (b : Int) : Outcome Bool :=
  match a.number? with
  | some x => .ok (x.ge (.whole b))
  | none => .error (.notOrdered ">=" a.kind.label Kind.whole.label)

/-- Whether `a` is below the number `b`. -/
def isBelow (a : Value) (b : Int) : Outcome Bool :=
  match a.number? with
  | some x => .ok (x.lt (.whole b))
  | none => .error (.notOrdered "<" a.kind.label Kind.whole.label)

end Value

end Scriptorium

/-! ## The order of values

Numbers, texts and lists are ordered among themselves; other values are not.
-/

namespace Scriptorium.Value

mutual

/-- Whether `a` comes before `b`. -/
def less [Halves] (a b : Value) : Outcome Bool :=
  match a, b with
  | text s, text t => .ok (Text.precedes s t)
  | list xs, list ys => lessItems xs ys
  | a, b => match a.number?, b.number? with
    | some x, some y => .ok (x.lt y)
    | _, _ => .error (.notOrdered "<" a.kind.label b.kind.label)

/-- Whether items come before others: the first difference decides. -/
def lessItems [Halves] : List Value → List Value → Outcome Bool
  | [], [] => .ok false
  | [], _ :: _ => .ok true
  | _ :: _, [] => .ok false
  | x :: xs, y :: ys => if x.same y then lessItems xs ys else less x y

end

end Scriptorium.Value

/-! ## Whole numbers of values

A value is taken for a whole number where one is asked for: a float is cut toward zero, a text
is read as a numeral.
-/

namespace Scriptorium.Value

/-- A value taken for a whole number. -/
def toWhole [Halves] : Value → Outcome Int
  | .int n => .ok n
  | .bool b => .ok (if b then 1 else 0)
  | .float x => match Decimal.read x with
    | .finite b => .ok b.truncate
    | .infinite _ => .error (.outOfRange "cannot convert float infinity to integer")
    | .nan => .error (.unaccepted "cannot convert float NaN to integer")
  | .text s => match Text.readWhole s with
    | .ok n => .ok n
    | .error .malformed => .error (.unaccepted (Text.noNumeral 10 s))
    | .error (.tooLong digits) => .error (.unaccepted (Text.tooManyDigits digits))
  | v => .error (.notWhole v.kind)

end Scriptorium.Value
