import Scriptorium.Decimal.Extended
import Scriptorium.Decimal.Fixed
import Scriptorium.Decimal.Scan
import Scriptorium.Number
import Scriptorium.Text.Numeral
import Scriptorium.Value
set_option autoImplicit false

/-!
# Numbers of the database

The database writes a float with fifteen significant digits, and reads a text as a number in 64
bits of precision.  Neither is always the nearest: floats are scaled by powers of ten that are
rounded themselves.
-/

namespace Scriptorium.Storage

open Decimal (Extended)

/-! ## Writing -/

/-- The number of significant digits that are written. -/
def significantDigits : Nat := 15

/-- Half a unit of the last digit that is written. -/
def rounder : Extended := .ofFloat (5.0e-05 * 1.0e-10)

/-- A power of ten that is at most a number, in steps of a power, and its exponent. -/
def scaleBy (x step : Extended) (size : Nat) : Nat → Extended × Int → Extended × Int
  | 0, found => found
  | fuel + 1, (scale, e) =>
    if x.ge (step.mul scale) then scaleBy x step size fuel (scale.mul step, e + size)
    else (scale, e)

/-- A number raised by steps of a power of ten until it is no longer below a bound. -/
def liftBy (bound step : Extended) (size : Nat) : Nat → Extended × Int → Extended × Int
  | 0, found => found
  | fuel + 1, (x, e) =>
    if x.ge bound then (x, e) else liftBy bound step size fuel (x.mul step, e - size)

/-- A positive number between one and ten, and the power of ten that it was divided by. -/
def normalised (x : Extended) : Extended × Int :=
  let (scale, e) := scaleBy x (.ofFloat 1e100) 100 4 (.ofNat 1, 0)
  let (scale, e) := scaleBy x (.ofFloat 1e10) 10 10 (scale, e)
  let (scale, e) := scaleBy x (.ofNat 10) 1 10 (scale, e)
  let (x, e) := liftBy (.ofFloat 1e-8) (.ofFloat 1e8) 8 50 (x.div scale, e)
  liftBy (.ofNat 1) (.ofNat 10) 1 10 (x, e)

/-- The significant digits of a positive float. -/
def digitsOf (x : Float) : Decimal.Digits :=
  let (y, e) := normalised (.ofFloat x)
  let y := y.add rounder
  let (y, e) := if y.ge (.ofNat 10) then (y.mul (.ofFloat 0.1), e + 1) else (y, e)
  ⟨Decimal.dropTrailingZeros (y.digits significantDigits), e + 1⟩

/-- The text of a float. -/
def realText (x : Float) : String :=
  match Decimal.read x with
  | .nan => ""
  | .infinite negative => if negative then "-Inf" else "Inf"
  | .finite b =>
    if b.mantissa = 0 then "0.0"
    else
      let d := digitsOf x
      let sign := if b.negative then "-" else ""
      sign ++ (if -4 < d.point && d.point ≤ significantDigits then Decimal.positional d true
        else
          let d := if d.digits.length = 1 then { d with digits := d.digits ++ [0] } else d
          Decimal.scientific d 2)

/-! ## Reading -/

/-- Blanks around numbers. -/
def isGap (c : Char) : Bool := c == ' ' || (0x09 ≤ c.toNat && c.toNat ≤ 0x0D)

/-- A number as it is written: its digits before and behind the point, and its exponent. -/
structure Numeral where
  negative : Bool
  whole : List Nat
  places : List Nat
  exponent : Int
  /-- Whether there is neither a point nor an exponent. -/
  isWhole : Bool
  deriving DecidableEq, Repr

/-- Exponents from here on are all the same. -/
def exponentLimit : Nat := 10000

/-- The number of digits of an exponent, as far as it counts. -/
def exponentOf (digits : List Nat) : Nat :=
  digits.foldl (fun e d => if e < exponentLimit then e * 10 + d else exponentLimit) 0

/-- Reads a text that is nothing but a number between blanks. -/
def Numeral.read? (s : String) : Option Numeral := do
  let cs := s.toList.dropWhile isGap
  let (negative, cs) := Text.signOf cs
  let (whole, cs) := Decimal.spanDigits cs
  let (places, pointed, cs) := match cs with
    | '.' :: rest => ((Decimal.spanDigits rest).1, true, (Decimal.spanDigits rest).2)
    | _ => ([], false, cs)
  let (exponent, raised, cs) ← match cs with
    | 'e' :: rest | 'E' :: rest =>
      let (down, rest) := Text.signOf rest
      let (digits, rest) := Decimal.spanDigits rest
      if digits.isEmpty then none
      else
        let e : Int := exponentOf digits
        some (if down then -e else e, true, rest)
    | _ => some (0, false, cs)
  if (cs.dropWhile isGap).isEmpty && !(whole.isEmpty && places.isEmpty) then
    some ⟨negative, whole, places, exponent, !pointed && !raised⟩
  else none

/-- The greatest whole number of 63 bits. -/
def greatestWord : Nat := Nat.pow 2 63 - 1

/-- A significand from which on no digit is added. -/
def fullSignificand : Nat := (greatestWord - 9) / 10

/-- The number of leading digits that fill a significand, and the digits left. -/
def takeDigits : Nat → List Nat → Nat × List Nat
  | s, [] => (s, [])
  | s, d :: rest => if s < fullSignificand then takeDigits (s * 10 + d) rest else (s, d :: rest)

/-- Moves tens between a significand and its exponent, as far as that loses nothing. -/
def balance : Nat → Nat → Int → Nat × Int
  | 0, s, e => (s, e)
  | fuel + 1, s, e =>
    if 0 < e && decide (s < greatestWord / 10) then balance fuel (s * 10) (e - 1)
    else if e < 0 && s % 10 == 0 then balance fuel (s / 10) (e + 1)
    else (s, e)

/-- The magnitude of `s * 10^e`, as the database computes it. -/
def scaled (s : Nat) (e : Int) : Float :=
  let n := e.natAbs
  let apply (power : Nat) : Float :=
    let scale := Extended.powerOfTen power
    if e < 0 then ((Extended.ofNat s).div scale).toFloat else ((Extended.ofNat s).mul scale).toFloat
  if n = 0 then Decimal.ofInt s
  else if n ≤ 307 then apply n
  else if n < 342 then if e < 0 then apply (n - 308) / 1.0e308 else apply (n - 308) * 1.0e308
  else if e < 0 then 0 else 1 / 0

/-- The float that a number is read as. -/
def Numeral.real (n : Numeral) : Float :=
  let (s, dropped) := takeDigits 0 n.whole
  let (t, left) := takeDigits s n.places
  let used := n.places.length - left.length
  let e : Int := n.exponent + dropped.length - used
  let size := if t = 0 then 0 else
    let (t, e) := balance 20 t e
    scaled t e
  if n.negative then -size else size

/-- Whether a whole number has a place in 64 bits. -/
def fitsWord (n : Int) : Bool := decide (-Int.pow 2 63 ≤ n ∧ n < Int.pow 2 63)

/-- A float as a number: a whole one if that loses nothing. -/
def settled (x : Float) : Value :=
  match Decimal.read x with
  | .finite b =>
    let n := b.truncate
    if (Number.real x).same (.whole n) && decide (-Int.pow 2 63 < n ∧ n < Int.pow 2 63 - 1) then
      .int n
    else .float x
  | _ => .float x

/-- The number that a text reads as. -/
def numberOf? (s : String) : Option Value := do
  let n ← Numeral.read? s
  let size : Int := Decimal.natOf n.whole
  let whole := if n.negative then -size else size
  if n.isWhole && fitsWord whole then return .int whole else return settled n.real

end Scriptorium.Storage
