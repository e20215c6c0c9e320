import Scriptorium.Decimal.Scan
import Scriptorium.Text.Blank
import Scriptorium.Text.Case
import Scriptorium.Text.Quoted
set_option autoImplicit false

/-!
# Numbers written in texts

Numbers may stand between blanks, may have a sign, may be written with the digits of any
script, and may have single underscores between their digits.
-/

namespace Scriptorium.Text

/-! ## Decimal digits of every script

Each script writes its ten digits in a row, so a digit is known by the zero of its row.
-/

/-- The zeros of all rows of decimal digits. -/
def zeros : List Nat :=
  [48, 1632, 1776, 1984, 2406, 2534, 2662, 2790, 2918, 3046, 3174, 3302, 3430, 3558, 3664, 3792,
   3872, 4160, 4240, 6112, 6160, 6470, 6608, 6784, 6800, 6992, 7088, 7232, 7248, 42528, 43216,
   43264, 43472, 43504, 43600, 44016, 65296, 66720, 68912, 69734, 69872, 69942, 70096, 70384,
   70736, 70864, 71248, 71360, 71472, 71904, 72016, 72784, 73040, 73120, 92768, 92864, 93008,
   120782, 120792, 120802, 120812, 120822, 123200, 123632, 125264, 130032]

/-- The value of a decimal digit of any script. -/
def digitValue? (c : Char) : Option Nat :=
  (zeros.find? fun start => start ≤ c.toNat && c.toNat < start + 10).map (c.toNat - ·)

/-! ## Numbers -/

/-- Writes the digits of all scripts as ASCII digits. -/
def plainDigits (cs : List Char) : List Char :=
  cs.map fun c => match digitValue? c with
    | some d => Char.ofNat (48 + d)
    | none => c

/-- The blanks that may stand around a number: all but the separators of files, groups, records
and units. -/
def isNumeralBlank (c : Char) : Bool := isBlank c && !(0x1C ≤ c.toNat && c.toNat ≤ 0x1F)

/-- The text of a number: without the blanks around it, with ASCII digits. -/
def numeralText (cs : List Char) : List Char :=
  plainDigits ((cs.dropWhile isNumeralBlank).reverse.dropWhile isNumeralBlank).reverse

/-- A sign, and what follows it. -/
def signOf : List Char → Bool × List Char
  | '-' :: rest => (true, rest)
  | '+' :: rest => (false, rest)
  | cs => (false, cs)

/-- Takes out the underscores of a numeral; nothing if one does not stand between two digits.
`after` says whether a digit stands before the rest. -/
def withoutUnderscores (isDigit : Char → Bool) : Bool → List Char → Option (List Char)
  | _, [] => some []
  | after, '_' :: c :: rest =>
    if after && isDigit c then (c :: ·) <$> withoutUnderscores isDigit true rest else none
  | _, ['_'] => none
  | _, c :: rest => (c :: ·) <$> withoutUnderscores isDigit (isDigit c) rest

/-- The greatest number of decimal digits that is read. -/
def digitLimit : Nat := 4300

/-- Why a text stands for no whole number. -/
inductive NumeralFlaw where
  /-- The text is no numeral. -/
  | malformed
  /-- The text starts with a numeral that has too many digits. -/
  | tooLong (digits : Nat)
  deriving DecidableEq, Repr

/-- Reads a whole number.  The number of digits is looked at before what follows them. -/
def readWhole (s : String) : Except NumeralFlaw Int :=
  let (negative, body) := signOf (numeralText s.toList)
  let (run, rest) := body.span fun c => Decimal.isDigit c || c == '_'
  match withoutUnderscores Decimal.isDigit false run with
  | none => .error .malformed
  | some digits =>
    if digitLimit < digits.length then .error (.tooLong digits.length)
    else if digits.isEmpty || !rest.isEmpty then .error .malformed
    else
      let n : Int := Decimal.natOf (digits.map (·.toNat - 48))
      .ok (if negative then -n else n)

/-- The whole number that a text stands for. -/
def whole? (s : String) : Option Int := (readWhole s).toOption

/-- The value of a hexadecimal digit. -/
def hexValue? (c : Char) : Option Nat :=
  if '0' ≤ c ∧ c ≤ '9' then some (c.toNat - 48)
  else if 'a' ≤ c ∧ c ≤ 'f' then some (c.toNat - 87)
  else if 'A' ≤ c ∧ c ≤ 'F' then some (c.toNat - 55)
  else none

/-- The text behind the mark of a hexadecimal number, and whether the mark is there. -/
def behindHexMark : List Char → List Char × Bool
  | '0' :: 'x' :: rest => (rest, true)
  | '0' :: 'X' :: rest => (rest, true)
  | cs => (cs, false)

/-- The whole number that a text stands for in hexadecimal digits, with or without a mark. -/
def hexWhole? (s : String) : Option Int := do
  let (negative, body) := signOf (numeralText s.toList)
  let (body, marked) := behindHexMark body
  let digits ← withoutUnderscores (fun c => (hexValue? c).isSome) marked body
  if digits.isEmpty then none
  let values ← digits.mapM hexValue?
  let n : Int := Int.ofNat (values.foldl (fun n d => 16 * n + d) 0)
  return if negative then -n else n

/-- The float that a list of digits, a point and an exponent stand for. -/
def decimal? (cs : List Char) : Option Float := do
  let (whole, rest) := Decimal.spanDigits cs
  let (places, rest) := match rest with
    | '.' :: rest => Decimal.spanDigits rest
    | _ => ([], rest)
  if whole.isEmpty && places.isEmpty then none
  let exponent ← match rest with
    | [] => some 0
    | e :: rest =>
      if e = 'e' || e = 'E' then
        let (negative, body) := signOf rest
        let (digits, after) := Decimal.spanDigits body
        if digits.isEmpty || !after.isEmpty then none
        else
          let n : Int := Decimal.natOf digits
          some (if negative then -n else n)
      else none
  return Decimal.nearest (whole ++ places) (exponent - places.length)

/-- The float that a text stands for. -/
def real? (s : String) : Option Float := do
  let text := numeralText s.toList
  let (negative, body) := signOf text
  let digits ← withoutUnderscores Decimal.isDigit false body
  let x ← match String.ofList (lowerChars digits) with
    | "inf" | "infinity" => some (1 / 0)
    | "nan" => some (0 / 0)
    | _ => decimal? digits
  return if negative then -x else x

/-- The wording of the complaint about a text that is no number to a base. -/
def noNumeral [Halves] (base : Nat) (s : String) : String :=
  s!"invalid literal for int() with base {base}: " ++ String.ofList ((quoted s).toList.take 200)

/-- The wording of the complaint about a numeral with too many digits. -/
def tooManyDigits (digits : Nat) : String :=
  s!"Exceeds the limit ({digitLimit} digits) for integer string conversion: value has {digits} " ++
    "digits; use sys.set_int_max_str_digits() to increase the limit"

end Scriptorium.Text
