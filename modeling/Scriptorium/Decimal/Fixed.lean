import Scriptorium.Decimal.Notation
set_option autoImplicit false

/-!
# Decimals with a given number of digits

The exact value of a float is rounded once, a half going to the even neighbour, either to a
number of places after the point or to a number of significant digits.
-/

namespace Scriptorium.Decimal

/-- The whole number nearest to `num / den`, a half going to the even neighbour. -/
def roundDiv (num den : Nat) : Nat :=
  let q := num / den
  let r := num % den
  if 2 * r < den then q
  else if den < 2 * r then q + 1
  else if q % 2 = 0 then q else q + 1

/-- The magnitude of a finite value as a fraction. -/
def Binary.magnitudeFraction (b : Binary) : Nat × Nat :=
  (b.fraction.1.natAbs, b.fraction.2)

/-- The magnitude of a value in units of `10^-places`, rounded. -/
def inUnits (b : Binary) (places : Nat) : Nat :=
  let (num, den) := b.magnitudeFraction
  roundDiv (num * Nat.pow 10 places) den

/-- Digits with a point before the last `places` of them, and at least one digit before it. -/
def withPoint (n places : Nat) : String :=
  let ds := digitsOf n
  let ds := List.replicate (places + 1 - ds.length) 0 ++ ds
  let whole := digitText (ds.take (ds.length - places))
  if places = 0 then whole else whole ++ "." ++ digitText (ds.drop (ds.length - places))

/-- The magnitude of a value with `places` digits after the point. -/
def fixedText (b : Binary) (places : Nat) : String := withPoint (inUnits b places) places

/-- The `count` significant digits of a positive value. -/
def significant (b : Binary) (count : Nat) : Digits :=
  let (num, den) := b.magnitudeFraction
  if num = 0 then ⟨List.replicate count 0, 1⟩
  else
    let k := magnitude num den
    let (n, d) := scaleTen num den ((count : Int) - k)
    let ds := digitsOf (roundDiv n d)
    if count < ds.length then ⟨ds.take count, k + 1⟩ else ⟨ds, k⟩

/-- A float with one digit after the point. -/
def onePlace (x : Float) : String :=
  match read x with
  | .nan => "nan"
  | .infinite negative => if negative then "-inf" else "inf"
  | .finite b => (if b.negative then "-" else "") ++ fixedText b 1

end Scriptorium.Decimal
