import Scriptorium.Decimal.Fixed
import Scriptorium.Pattern.Layout
set_option autoImplicit false

/-!
# Laying out numbers

A number is written as a sign, a mark for its base, digits in groups and a tail; padding goes
before the sign, before the digits or after the tail.
-/

namespace Scriptorium.Pattern

/-- The parts of a written number. -/
structure Figure where
  negative : Bool
  /-- What stands between sign and digits. -/
  mark : List Char
  digits : List Char
  /-- The point and all that follows it. -/
  tail : List Char
  deriving DecidableEq, Repr

/-- Digits, last first, in groups from the right; zeros fill up to `least` characters, separators
included. -/
def groups (size : Nat) : Nat → List Char → Int → List (List Char)
  | 0, _, _ => []
  | fuel + 1, ds, least =>
    let length := min size (max (max ds.length least.toNat) 1)
    let group := ds.take length ++ List.replicate (length - ds.length) '0'
    let rest := ds.drop length
    let least := least - length
    if rest.isEmpty && least ≤ 0 then [group] else group :: groups size fuel rest (least - 1)

/-- Digits with separators and zeros in front, at least `least` characters. -/
def grouped (separator : Option (Char × Nat)) (digits : List Char) (least : Int) : List Char :=
  if digits.isEmpty then []
  else match separator with
    | some (mark, size) =>
      let fuel := digits.length + least.toNat + 1
      ([mark].intercalate (groups size fuel digits.reverse least)).reverse
    | none => List.replicate (least.toNat - digits.length) '0' ++ digits

/-- Writes the parts of a number. -/
def Figure.lay (f : Figure) (l : Layout) (groupSize : Nat) : String :=
  let sign : List Char :=
    if f.negative then ['-']
    else if l.sign = some '+' then ['+']
    else if l.sign = some ' ' then [' ']
    else []
  let others := sign.length + f.mark.length + f.tail.length
  let least : Int := if l.fill = '0' ∧ l.align = .inner then (l.width.getD 0 : Int) - others else 0
  let digits := grouped (l.separator.map (·, groupSize)) f.digits least
  let (before, inside, after) := l.padding (others + digits.length)
  String.ofList (l.pad before ++ sign ++ f.mark ++ l.pad inside ++ digits ++ f.tail ++ l.pad after)

/-! ## Whole numbers -/

/-- The base of a notation and its mark. -/
def baseOf (letter : Char) : Nat × List Char :=
  if letter = 'b' then (2, ['0', 'b'])
  else if letter = 'o' then (8, ['0', 'o'])
  else if letter = 'x' then (16, ['0', 'x'])
  else if letter = 'X' then (16, ['0', 'X'])
  else (10, [])

/-- Writes a whole number in a base or as a character. -/
def layBased (l : Layout) (letter : Char) (n : Int) : Except Flaw String := do
  if l.precision.isSome then throw .wholePrecision
  if l.plainZero then throw .wholeZero
  if letter = 'c' then
    if l.sign.isSome then throw .charSign
    if l.alternate then throw .charAlternate
    if n < -Int.pow 2 63 ∨ Int.pow 2 63 ≤ n then throw .charSize
    if n < 0 ∨ 0x10ffff < n then throw .charRange
    return (Figure.mk false [] [] [Char.ofNat n.toNat]).lay l 3
  let (base, mark) := baseOf letter
  let digits := Nat.toDigits base n.natAbs
  let digits := if letter = 'X' then digits.map Char.toUpper else digits
  let groupSize := if basedNotations.contains letter then 4 else 3
  return (Figure.mk (n < 0) (if l.alternate then mark else []) digits []).lay l groupSize

/-! ## Floats -/

/-- A digit of a decimal at a position, counted from its first digit; zero outside. -/
def digitAt (digits : List Nat) (position : Int) : Char :=
  match position with
  | .ofNat i => Char.ofNat (48 + digits[i]?.getD 0)
  | .negSucc _ => '0'

/-- The digits before the point and those after it, up to the position `upTo`. -/
def splitAtPoint (digits : List Nat) (point upTo : Int) : List Char × List Char :=
  (if point ≤ 0 then ['0'] else (List.range point.toNat).map fun (i : Nat) => digitAt digits i,
    (List.range (upTo - point).toNat).map fun (i : Nat) => digitAt digits (point + i))

/-- How the digits of a float are chosen. -/
inductive FloatStyle where
  /-- The fewest digits. -/
  | fewest
  /-- A number of digits after the point. -/
  | places (count : Nat)
  /-- One digit before the point and a number of digits after it. -/
  | exponent (count : Nat)
  /-- A number of digits in all. -/
  | general (count : Nat) (keepsPoint : Bool)
  deriving DecidableEq, Repr

/-- The digits of a finite magnitude in a style, without zeros at the end. -/
def chosenDigits (style : FloatStyle) (b : Decimal.Binary) : Decimal.Digits :=
  if b.mantissa = 0 then ⟨[0], 1⟩
  else match style with
    | .fewest => Decimal.shortest b
    | .places count =>
      let n := Decimal.inUnits b count
      if n = 0 then ⟨[], -count⟩
      else
        let digits := Decimal.digitsOf n
        ⟨Decimal.dropTrailingZeros digits, digits.length - count⟩
    | .exponent count =>
      let d := Decimal.significant b (count + 1)
      { d with digits := Decimal.dropTrailingZeros d.digits }
    | .general count _ =>
      let d := Decimal.significant b count
      { d with digits := Decimal.dropTrailingZeros d.digits }

/-- Whether a style writes an exponent for a decimal point at this position. -/
def FloatStyle.usesExponent (style : FloatStyle) (point : Int) : Bool :=
  match style with
  | .fewest => point ≤ -4 || 16 < point
  | .places _ => false
  | .exponent _ => true
  | .general count keepsPoint => point ≤ -4 || (count : Int) - (if keepsPoint then 1 else 0) < point

/-- Whether a style keeps a digit after the point. -/
def FloatStyle.keepsPoint : FloatStyle → Bool
  | .fewest => true
  | .general _ keepsPoint => keepsPoint
  | _ => false

/-- The parts of a finite magnitude: the digits before the point and the tail. -/
def magnitudeParts (style : FloatStyle) (alternate : Bool) (d : Decimal.Digits) :
    List Char × List Char :=
  let length : Int := d.digits.length
  let upTo : Int := match style with
    | .fewest => length
    | .places count => d.point + count
    | .exponent count => count + 1
    | .general count _ => if alternate then count else length
  let exponent := style.usesExponent d.point
  let point := if exponent then 1 else d.point
  let least := if !exponent && style.keepsPoint then point + 1 else point
  let (whole, fraction) := splitAtPoint d.digits point (max upTo least)
  let dot := if fraction.isEmpty && !alternate then [] else ['.']
  let power := if exponent then 'e' :: (Decimal.exponentText (d.point - 1) 2).toList else []
  (whole, dot ++ fraction ++ power)

/-- The style a layout asks for. -/
def floatStyle (l : Layout) : FloatStyle :=
  let count := l.precision.getD 6
  match l.letter.map Char.toLower with
  | none => match l.precision with
    | none => .fewest
    | some n => .general (max n 1) true
  | some c =>
    if c = 'e' then .exponent count
    else if c = 'f' ∨ c = '%' then .places count
    else .general (max count 1) false

/-- The parts of a float. -/
def figureOfFloat (l : Layout) (x : Float) : Figure :=
  let percent := l.letter = some '%'
  let x := if percent then x * 100 else x
  let upper := (l.letter.map fun c => c == 'E' || c == 'F' || c == 'G').getD false
  let raise (cs : List Char) : List Char := if upper then cs.map Char.toUpper else cs
  let ending : List Char := if percent then ['%'] else []
  match Decimal.read x with
  | .nan => ⟨false, [], [], raise ['n', 'a', 'n'] ++ ending⟩
  | .infinite negative => ⟨negative, [], [], raise ['i', 'n', 'f'] ++ ending⟩
  | .finite b =>
    let style := floatStyle l
    let d := chosenDigits style b
    let (whole, tail) := magnitudeParts style l.alternate d
    let negative := b.negative && !(l.plainZero && d.digits.all (· == 0))
    ⟨negative, [], whole, raise tail ++ ending⟩

/-- Writes a float. -/
def layReal (l : Layout) (x : Float) : Except Flaw String := do
  if let some n := l.precision then
    if Nat.pow 2 31 - 1 < n then throw .largePrecision
  return (figureOfFloat l x).lay l 3

/-- The letters of the notations of floats. -/
def floatNotations : List Char := ['e', 'E', 'f', 'F', 'g', 'G', '%']

/-- The letters of the notations of whole numbers. -/
def wholeNotations : List Char := ['b', 'c', 'd', 'o', 'x', 'X', 'n']

/-- Writes a whole number or a truth value, which is `shown` when no layout is given. -/
def layWhole (kind : Kind) (spec : List Char) (n : Int) (shown : String) : Except Flaw String := do
  if spec.isEmpty then return shown
  let l ← Layout.read kind .right (some 'd') spec
  let letter := l.letter.getD 'd'
  if wholeNotations.contains letter then layBased l letter n
  else if floatNotations.contains letter then
    let x := Decimal.ofInt n
    if Decimal.isFinite x then layReal l x else throw .noFloat
  else throw (.code letter kind)

/-- Writes a float, which is `shown` when no layout is given. -/
def layFloat (spec : List Char) (x : Float) (shown : String) : Except Flaw String := do
  if spec.isEmpty then return shown
  let l ← Layout.read .real .right none spec
  match l.letter with
  | none => layReal l x
  | some letter =>
    if floatNotations.contains letter || letter == 'n' then layReal l x
    else throw (.code letter .real)

/-- Writes a value. -/
def lay [Halves] (spec : List Char) (v : Value) : Except Flaw String :=
  match v with
  | .text s => layText spec s
  | .int n => layWhole .whole spec n v.shown
  | .bool b => layWhole .truth spec (if b then 1 else 0) v.shown
  | .float x => layFloat spec x v.shown
  | _ => if spec.isEmpty then .ok v.shown else .error (.noLayout v.kind)

end Scriptorium.Pattern
