import Scriptorium.Number
import Scriptorium.Stamp
import Scriptorium.Text.Numeral
set_option autoImplicit false

/-!
# Reading points in time

A point in time is given as a number of seconds since the start of 1970, or as a text with date
and time.  Numbers beyond the year 2603 count milliseconds, microseconds and so on.
-/

namespace Scriptorium.Schema

/-- The last and first points in time that are kept. -/
def lastMoment : Stamp := ⟨253402300799999999, none⟩

/-- The first point in time that is kept. -/
def firstMoment : Stamp := ⟨-62135596800000000, none⟩

/-- The thousandth of a number, rounded once. -/
def thousandth : Number → Number
  | .whole n =>
    let size := Float.ofScientific n.natAbs true 3
    .real (if n < 0 then -size else size)
  | .real x => .real (x / 1000)

/-- Divides by a thousand until the magnitude is at most `2e10`; numbers up to `3e20` need four
divisions at most. -/
def toSeconds : Nat → Number → Number
  | 0, n => n
  | fuel + 1, n =>
    let far := (Number.whole 20000000000).lt n || n.lt (.whole (-20000000000))
    if far then toSeconds fuel (thousandth n) else n

/-- A number of seconds in whole microseconds: the part after the point is rounded, a half going
to the even neighbour. -/
def microsOf : Number → Int
  | .whole n => n * 1000000
  | .real x => match Decimal.read x with
    | .finite b =>
      let whole := b.truncate
      let part := (x - Decimal.ofInt whole) * 1000000
      match Decimal.read part with
      | .finite p =>
        let (num, den) := p.fraction
        let size := num.natAbs / den
        let rest := num.natAbs % den
        let size : Int := if 2 * rest < den then size else if den < 2 * rest then size + 1
          else if size % 2 = 0 then size else size + 1
        whole * 1000000 + (if num < 0 then -size else size)
      | _ => whole * 1000000
    | _ => 0

/-- The point in time that lies a number of seconds after the start of 1970; nothing for the
float that is no number. -/
def momentOfSeconds (n : Number) : Option Stamp :=
  let limit : Number := .whole 300000000000000000000
  if limit.lt n then some lastMoment
  else if n.lt (.whole (-300000000000000000000)) then some firstMoment
  else if n.same n then some ⟨microsOf (toSeconds 8 n), some 0⟩
  else none

/-- Between `least` and `most` digits of any script, and what follows them. -/
def digitsUpTo (least most : Nat) (cs : List Char) : Option (List Nat × List Char) :=
  let digits := ((cs.take most).takeWhile fun c => (Text.digitValue? c).isSome).filterMap
    Text.digitValue?
  if digits.length < least then none else some (digits, cs.drop digits.length)

/-- The text behind a character. -/
def behindChar (c : Char) : List Char → Option (List Char)
  | d :: rest => if c = d then some rest else none
  | [] => none

/-- Whether nothing but a line feed follows. -/
def atEnd (cs : List Char) : Bool := cs.isEmpty || cs == ['\n']

/-- The zone at the end of a time, in minutes; a zone has to be less than a day. -/
def zoneOf (cs : List Char) : Option (Option Int) :=
  match cs with
  | 'Z' :: rest => if atEnd rest then some (some 0) else none
  | sign :: rest =>
    if sign = '+' ∨ sign = '-' then do
      let (hours, rest) ← digitsUpTo 2 2 rest
      let hours := Decimal.natOf hours
      let minutes ←
        if atEnd rest then some 0
        else do
          let rest := match rest with
            | ':' :: more => more
            | _ => rest
          let (minutes, rest) ← digitsUpTo 2 2 rest
          if atEnd rest then some (Decimal.natOf minutes) else none
      let total : Int := hours * 60 + minutes
      if 1440 ≤ total then none
      some (some (if sign = '-' then -total else total))
    else if atEnd cs then some none else none
  | [] => some none

/-- Seconds and their fraction in microseconds, after the minutes of a time. -/
def secondsOf (cs : List Char) : Option (Nat × Nat × List Char) :=
  match cs with
  | ':' :: rest => do
    let (seconds, rest) ← digitsUpTo 1 2 rest
    match rest with
    | '.' :: more =>
      match digitsUpTo 1 6 more with
      | some (micros, after) =>
        let after := match digitsUpTo 0 6 after with
          | some (_, after) => after
          | none => after
        return (Decimal.natOf seconds,
          Decimal.natOf (micros ++ List.replicate (6 - micros.length) 0), after)
      | none => none
    | _ => return (Decimal.natOf seconds, 0, rest)
  | _ => some (0, 0, cs)

/-- The point in time that a text with date and time stands for. -/
def momentOfText (s : String) : Option Stamp := do
  let (year, rest) ← digitsUpTo 4 4 s.toList
  let rest ← behindChar '-' rest
  let (month, rest) ← digitsUpTo 1 2 rest
  let rest ← behindChar '-' rest
  let (day, rest) ← digitsUpTo 1 2 rest
  let rest ← match rest with
    | c :: rest => if c = 'T' ∨ c = ' ' then some rest else none
    | [] => none
  let (hour, rest) ← digitsUpTo 1 2 rest
  let rest ← behindChar ':' rest
  let (minute, rest) ← digitsUpTo 1 2 rest
  let (second, micro, rest) ← secondsOf rest
  let zone ← zoneOf rest
  let date : Date := ⟨Decimal.natOf year, Decimal.natOf month, Decimal.natOf day⟩
  let hour := Decimal.natOf hour
  let minute := Decimal.natOf minute
  if date.year < 1 ∨ date.month < 1 ∨ 12 < date.month ∨ date.day < 1 ∨
      Date.daysIn date.year date.month < date.day ∨ 23 < hour ∨ 59 < minute ∨ 59 < second then none
  let seconds : Int := date.toDays * 86400 + hour * 3600 + minute * 60 + second
  return ⟨seconds * 1000000 + micro, zone⟩

end Scriptorium.Schema
