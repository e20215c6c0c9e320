import Scriptorium.Decimal.Binary
set_option autoImplicit false

/-!
# The fewest digits that read back

A positive finite float is written with the fewest decimal digits that still lie in the
interval of reals that round to it; of two candidates with that many digits the nearer
one is taken.  The search runs over the grids of 1, 2, … 17 digits and tests the two
neighbours of the value on each grid in exact arithmetic.
-/

namespace Scriptorium.Decimal

/-- The decimal `0.d₁d₂… * 10^point`, with its digits in order. -/
structure Digits where
  digits : List Nat
  point : Int
  deriving DecidableEq, Repr, Inhabited

/-- The decimal digits of a natural number, most significant first; zero has one digit. -/
def digitsOf (n : Nat) : List Nat := (Nat.toDigits 10 n).map (fun c => c.toNat - 48)

/-- The number of decimal digits before the point of `num / den`, negative when the value
starts with zeros after the point: `10^(k-1) ≤ num / den < 10^k`. -/
def magnitude (num den : Nat) : Int :=
  if den ≤ num then (digitsOf (num / den)).length
  else below 400 0
where
  /-- Counts the zeros after the point. -/
  below : Nat → Nat → Int
    | 0, zeros => -(zeros : Int)
    | fuel + 1, zeros =>
      if den ≤ num * Nat.pow 10 (zeros + 1) then -(zeros : Int) else below fuel (zeros + 1)

/-- Scales a pair by a power of ten, keeping both sides natural numbers. -/
def scaleTen (num den : Nat) (power : Int) : Nat × Nat :=
  match power with
  | .ofNat k => (num * Nat.pow 10 k, den)
  | .negSucc k => (num, den * Nat.pow 10 (k + 1))

/-- The interval of reals that round to `mantissa * 2^exponent`, as numerators over one
denominator: the value, the lower end and the upper end, and whether the ends belong. -/
structure RoundingInterval where
  value : Nat
  lower : Nat
  upper : Nat
  unit : Nat
  closed : Bool
  deriving Repr

/-- The rounding interval of a positive value. -/
def roundingInterval (b : Binary) : RoundingInterval :=
  let gapBelow := if b.mantissa == hiddenBit && leastExponent < b.exponent then 1 else 2
  let closed := b.mantissa % 2 == 0
  match b.exponent - 2 with
  | .ofNat k =>
    let p := Nat.pow 2 k
    ⟨4 * b.mantissa * p, (4 * b.mantissa - gapBelow) * p, (4 * b.mantissa + 2) * p, 1, closed⟩
  | .negSucc k =>
    ⟨4 * b.mantissa, 4 * b.mantissa - gapBelow, 4 * b.mantissa + 2, Nat.pow 2 (k + 1), closed⟩

/-- Whether `candidate * den` lies in the interval scaled by `num`. -/
def RoundingInterval.holds (r : RoundingInterval) (num den candidate : Nat) : Bool :=
  let at' := candidate * den
  if r.closed then r.lower * num ≤ at' && at' ≤ r.upper * num
  else r.lower * num < at' && at' < r.upper * num

/-- The best decimal of `count` digits that reads back, if there is one. -/
def onGrid (r : RoundingInterval) (k : Int) (count : Nat) : Option Nat :=
  let (num, den) := scaleTen 1 r.unit ((count : Int) - k)
  let low := r.value * num / den
  let lowHit := r.holds num den low && low != 0
  let highHit := r.holds num den (low + 1)
  if lowHit && highHit then
    let below := r.value * num - low * den
    let above := (low + 1) * den - r.value * num
    if below < above || (below == above && low % 2 == 0) then some low else some (low + 1)
  else if lowHit then some low
  else if highHit then some (low + 1)
  else none

/-- Drops the zeros at the end of a digit list. -/
def dropTrailingZeros (digits : List Nat) : List Nat :=
  (digits.reverse.dropWhile (· == 0)).reverse

/-- The shortest digits of a positive finite value. -/
def shortest (b : Binary) : Digits :=
  let r := roundingInterval b
  let k := magnitude r.value r.unit
  match (List.range 17).findSome? (fun i => (onGrid r k (i + 1)).map (fun n => (i + 1, n))) with
  | some (count, n) =>
    let ds := digitsOf n
    ⟨dropTrailingZeros ds, k + ((ds.length : Int) - count)⟩
  | none => ⟨[], 0⟩

end Scriptorium.Decimal
