import Scriptorium.Decimal.Shortest
set_option autoImplicit false

/-!
# Writing decimals

One record says how a float is written: where positional notation ends, whether a whole
number keeps a point, and how the exponent looks.  `Style.write` is the only printer of
shortest decimals; each output format of the library is one value of the record.
-/

namespace Scriptorium.Decimal

/-- How shortest decimals are written. -/
structure Style where
  /-- Positional notation is used while `leastPoint < point ≤ greatestPoint`. -/
  leastPoint : Int
  greatestPoint : Int
  /-- Whether a whole number ends in `.0`. -/
  keepsPoint : Bool
  /-- The least number of digits of an exponent. -/
  exponentWidth : Nat
  nan : String
  infinity : String
  deriving Repr

/-- The text of digits. -/
def digitText (digits : List Nat) : String :=
  String.ofList (digits.map fun d => Char.ofNat (48 + d))

/-- The text of a whole number. -/
def wholeText (n : Int) : String :=
  (if n < 0 then "-" else "") ++ String.ofList (Nat.toDigits 10 n.natAbs)

/-- Digits written without an exponent. -/
def positional (d : Digits) (keepsPoint : Bool) : String :=
  let n := d.digits.length
  match d.point with
  | .ofNat p =>
    if p = 0 then "0." ++ digitText d.digits
    else if n ≤ p then
      digitText (d.digits ++ List.replicate (p - n) 0) ++ (if keepsPoint then ".0" else "")
    else digitText (d.digits.take p) ++ "." ++ digitText (d.digits.drop p)
  | .negSucc z => "0." ++ digitText (List.replicate (z + 1) 0 ++ d.digits)

/-- An exponent with its sign and at least `width` digits. -/
def exponentText (e : Int) (width : Nat) : String :=
  let ds := digitsOf e.natAbs
  (if e < 0 then "-" else "+") ++ digitText (List.replicate (width - ds.length) 0 ++ ds)

/-- Digits written with an exponent. -/
def scientific (d : Digits) (width : Nat) : String :=
  let lead := digitText (d.digits.take 1)
  let rest := d.digits.drop 1
  lead ++ (if rest.isEmpty then "" else "." ++ digitText rest) ++ "e" ++
    exponentText (d.point - 1) width

/-- The text of a float in a style. -/
def Style.write (style : Style) (x : Float) : String :=
  match read x with
  | .nan => style.nan
  | .infinite negative => (if negative then "-" else "") ++ style.infinity
  | .finite b =>
    let sign := if b.negative then "-" else ""
    if b.mantissa = 0 then sign ++ (if style.keepsPoint then "0.0" else "0")
    else
      let d := shortest b
      sign ++ (if style.leastPoint < d.point && d.point ≤ style.greatestPoint then
        positional d style.keepsPoint
      else scientific d style.exponentWidth)

/-- Floats as documents and messages show them: positional between `1e-4` and `1e16`, a whole
number keeps its point, exponents have two digits. -/
def plain : Style := ⟨-4, 16, true, 2, "nan", "inf"⟩

/-- Floats inside JSON texts: as `plain`, with the names of the values JSON has no digits for. -/
def json : Style := { plain with nan := "NaN", infinity := "Infinity" }

end Scriptorium.Decimal
