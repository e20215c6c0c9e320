import Scriptorium.Decimal.Binary
set_option autoImplicit false

/-!
# Numbers of 64 significant bits

Arithmetic on positive numbers of which 64 bits are kept, a half going to the even neighbour.
Numbers of this precision stand between floats and decimal digits.
-/

namespace Scriptorium.Decimal

/-- The number `mantissa * 2^exponent`. -/
structure Extended where
  mantissa : Nat
  exponent : Int
  deriving DecidableEq, Repr

namespace Extended

/-- The number of bits that are kept. -/
def precision : Nat := 64

/-- The number nearest to `mantissa * 2^exponent`. -/
def round (mantissa : Nat) (exponent : Int) : Extended :=
  let excess := mantissa.log2 + 1 - precision
  if excess = 0 then ⟨mantissa, exponent⟩
  else
    let unit := Nat.pow 2 excess
    let q := mantissa / unit
    let r := mantissa % unit
    let up := decide (unit < 2 * r) || (unit == 2 * r && q % 2 == 1)
    ⟨if up then q + 1 else q, exponent + excess⟩

/-- A whole number. -/
def ofNat (n : Nat) : Extended := round n 0

/-- The magnitude of a float; one that is not finite counts as nothing. -/
def ofFloat (x : Float) : Extended :=
  match read x with
  | .finite b => ⟨b.mantissa, b.exponent⟩
  | _ => ⟨0, 0⟩

/-- A product. -/
def mul (a b : Extended) : Extended := round (a.mantissa * b.mantissa) (a.exponent + b.exponent)

/-- A quotient.  Enough bits are taken that those left out decide only whether a half is
exceeded. -/
def div (a b : Extended) : Extended :=
  let shift := 2 * precision + 2
  let scaled := a.mantissa * Nat.pow 2 shift
  let q := scaled / b.mantissa
  let rest := if scaled % b.mantissa = 0 then 0 else 1
  round (2 * q + rest) (a.exponent - b.exponent - shift - 1)

/-- The mantissas of two numbers over the lesser of their exponents. -/
def aligned (a b : Extended) : Nat × Nat × Int :=
  let e := min a.exponent b.exponent
  (a.mantissa * Nat.pow 2 (a.exponent - e).toNat, b.mantissa * Nat.pow 2 (b.exponent - e).toNat, e)

/-- A sum. -/
def add (a b : Extended) : Extended :=
  let (m, n, e) := aligned a b
  round (m + n) e

/-- A difference of a number and a lesser one. -/
def sub (a b : Extended) : Extended :=
  let (m, n, e) := aligned a b
  round (m - n) e

/-- Whether a number is at least another one. -/
def ge (a b : Extended) : Bool :=
  let (m, n, _) := aligned a b
  decide (n ≤ m)

/-- The whole part of a number. -/
def floor (a : Extended) : Nat :=
  match a.exponent with
  | .ofNat k => a.mantissa * Nat.pow 2 k
  | .negSucc k => a.mantissa / Nat.pow 2 (k + 1)

/-- A power of ten, by repeated squaring. -/
def powerOfTen (n : Nat) : Extended := go n n (ofNat 10) (ofNat 1)
where
  go : Nat → Nat → Extended → Extended → Extended
    | 0, _, _, result => result
    | fuel + 1, n, power, result =>
      let result := if n % 2 = 1 then result.mul power else result
      if n / 2 = 0 then result else go fuel (n / 2) (power.mul power) result

/-- The float nearest to a number. -/
def toFloat (a : Extended) : Float :=
  match a.exponent with
  | .ofNat k => Float.ofScientific (a.mantissa * Nat.pow 2 k) false 0
  | .negSucc k => Float.ofScientific (a.mantissa * Nat.pow 5 (k + 1)) true (k + 1)

/-- The first digits of a number below ten. -/
def digits : Nat → Extended → List Nat
  | 0, _ => []
  | count + 1, a =>
    let d := a.floor
    d :: digits count ((a.sub (ofNat d)).mul (ofNat 10))

end Extended

end Scriptorium.Decimal
