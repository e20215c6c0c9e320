set_option autoImplicit false

/-!
# The exact value of a float

A float is read through its bits into a sign, a natural mantissa and a power of two,
so that everything said about its digits or its order is exact arithmetic on `Nat` and
`Int`.
-/

namespace Scriptorium.Decimal

/-- The number `(-1)^negative * mantissa * 2^exponent`. -/
structure Binary where
  negative : Bool
  mantissa : Nat
  exponent : Int
  deriving DecidableEq, Repr, Inhabited

/-- What a float stands for. -/
inductive Reading where
  | nan
  | infinite (negative : Bool)
  | finite (value : Binary)
  deriving DecidableEq, Repr

/-- The least exponent of a finite float's mantissa. -/
def leastExponent : Int := -1074

/-- The mantissa of the least normal float of each exponent. -/
def hiddenBit : Nat := Nat.pow 2 52

/-- What the float with these bits stands for. -/
def readBits (bits : Nat) : Reading :=
  let negative := bits / Nat.pow 2 63 % 2 == 1
  let biased : Nat := bits / Nat.pow 2 52 % 2048
  let fraction : Nat := bits % Nat.pow 2 52
  if biased == 2047 then
    if fraction == 0 then .infinite negative else .nan
  else if biased == 0 then .finite ⟨negative, fraction, leastExponent⟩
  else .finite ⟨negative, hiddenBit + fraction, Int.ofNat biased - 1075⟩

/-- What a float stands for. -/
def read (x : Float) : Reading := readBits x.toBits.toNat

/-- Whether the float is a number with finitely many digits. -/
def isFinite (x : Float) : Bool :=
  match read x with
  | .finite _ => true
  | _ => false

namespace Binary

/-- The value as a numerator over a positive power of two. -/
def fraction (b : Binary) : Int × Nat :=
  let n : Int := if b.negative then -(b.mantissa : Int) else b.mantissa
  match b.exponent with
  | .ofNat k => (n * Int.pow 2 k, 1)
  | .negSucc k => (n, Nat.pow 2 (k + 1))

/-- The value cut towards zero. -/
def truncate (b : Binary) : Int :=
  let (n, d) := b.fraction
  n.tdiv d

end Binary

/-- The float nearest to an integer, a half going to the even neighbour. -/
def ofInt (n : Int) : Float :=
  let magnitude := Float.ofScientific n.natAbs false 0
  if n < 0 then -magnitude else magnitude

end Scriptorium.Decimal
