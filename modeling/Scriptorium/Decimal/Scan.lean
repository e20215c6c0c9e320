import Scriptorium.Decimal.Binary
set_option autoImplicit false

/-!
# Reading decimals

Digits, a point and an exponent are read into the nearest float, a half going to the even
neighbour.  Exponents far outside the range of floats are settled by the length of the
number alone, so that no power of ten larger than the range is ever built.
-/

namespace Scriptorium.Decimal

/-- The number that a list of decimal digits spells. -/
def natOf (digits : List Nat) : Nat := digits.foldl (fun n d => 10 * n + d) 0

/-- The positive float nearest to `digits * 10^exponent`. -/
def nearest (digits : List Nat) (exponent : Int) : Float :=
  let significant := digits.dropWhile (· == 0)
  if significant.isEmpty then 0
  else
    let top : Int := significant.length + exponent
    if 310 < top then Float.ofScientific 1 false 400
    else if top < -330 then 0
    else match exponent with
      | .ofNat k => Float.ofScientific (natOf significant) false k
      | .negSucc k => Float.ofScientific (natOf significant) true (k + 1)

/-- The value of an ASCII decimal digit. -/
def digit? (c : Char) : Option Nat :=
  if '0' ≤ c ∧ c ≤ '9' then some (c.toNat - 48) else none

/-- Whether the character is an ASCII decimal digit. -/
def isDigit (c : Char) : Bool := '0' ≤ c && c ≤ '9'

/-- The values of the leading ASCII digits, and what follows them. -/
def spanDigits (cs : List Char) : List Nat × List Char :=
  ((cs.takeWhile isDigit).map (fun c => c.toNat - 48), cs.dropWhile isDigit)

end Scriptorium.Decimal
