import Scriptorium.Decimal.Binary
set_option autoImplicit false

/-!
# Numbers

A number is whole or a float.  Order and equality between the two kinds are exact: a float
is compared by its value as a fraction, never by rounding the whole number.
-/

namespace Scriptorium

open Decimal

/-- A whole number of any size, or a float. -/
inductive Number where
  | whole (n : Int)
  | real (x : Float)
  deriving DecidableEq, Repr, Inhabited

namespace Number

/-- The place of a number on the line: below everything, a fraction, or above everything. -/
inductive Place where
  | bottom
  | at (num : Int) (den : Nat)
  | top
  | nowhere

/-- Where a number lies; the float that is no number lies nowhere. -/
def place : Number → Place
  | whole n => .at n 1
  | real x => match read x with
    | .nan => .nowhere
    | .infinite negative => if negative then .bottom else .top
    | .finite b => .at b.fraction.1 b.fraction.2

/-- The order of two numbers, exact for every pair that lies on the line. -/
def order? (a b : Number) : Option Ordering :=
  match a.place, b.place with
  | .nowhere, _ | _, .nowhere => none
  | .bottom, .bottom | .top, .top => some .eq
  | .bottom, _ | _, .top => some .lt
  | _, .bottom | .top, _ => some .gt
  | .at n d, .at m e => some (compare (n * e) (m * d))

/-- Whether two numbers are equal. -/
def same (a b : Number) : Bool := a.order? b == some .eq

/-- Whether `a` is below `b`. -/
def lt (a b : Number) : Bool := a.order? b == some .lt

/-- Whether `a` is at least `b`. -/
def ge (a b : Number) : Bool := a.order? b == some .gt || a.order? b == some .eq

/-- The nearest float. -/
def toFloat : Number → Float
  | whole n => ofInt n
  | real x => x

/-- Whether the number has a float near it. -/
def fits : Number → Bool
  | whole n => isFinite (ofInt n)
  | real _ => true

/-- Whether two numbers can be combined: as whole numbers, or else as floats. -/
def mixes : Number → Number → Bool
  | whole _, whole _ => true
  | a, b => a.fits && b.fits

end Number

end Scriptorium
