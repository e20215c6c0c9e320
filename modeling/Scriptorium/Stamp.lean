import Scriptorium.Decimal.Notation
set_option autoImplicit false

/-!
# Points in time

A stamp is a time on the clock of its zone, in microseconds since the start of 1970; a stamp
without a zone is in universal time.  Stamps are written with the letter `T` between date and
time, microseconds only if there are any, and the zone only if there is one.
-/

namespace Scriptorium

/-- A date of the calendar. -/
structure Date where
  year : Int
  month : Nat
  day : Nat
  deriving DecidableEq, Repr

namespace Date

/-- The date that lies `days` after the first of January 1970.  Years are counted from March,
so that a leap day ends its year. -/
def ofDays (days : Int) : Date :=
  let z := days + 719468
  let era := z.fdiv 146097
  let doe := (z - era * 146097).toNat
  let yoe := (doe - doe / 1460 + doe / 36524 - doe / 146096) / 365
  let doy := doe - (365 * yoe + yoe / 4 - yoe / 100)
  let mp := (5 * doy + 2) / 153
  let day := doy - (153 * mp + 2) / 5 + 1
  let month := if mp < 10 then mp + 3 else mp - 9
  let year : Int := yoe + era * 400 + (if month ≤ 2 then 1 else 0)
  ⟨year, month, day⟩

/-- The days from the first of January 1970 to a date. -/
def toDays (d : Date) : Int :=
  let y := if d.month ≤ 2 then d.year - 1 else d.year
  let era := y.fdiv 400
  let yoe := (y - era * 400).toNat
  let mp := if 2 < d.month then d.month - 3 else d.month + 9
  let doy := (153 * mp + 2) / 5 + d.day - 1
  let doe := yoe * 365 + yoe / 4 - yoe / 100 + doy
  era * 146097 + doe - 719468

/-- Whether a year has a leap day. -/
def isLeap (year : Int) : Bool :=
  year % 4 == 0 && (year % 100 != 0 || year % 400 == 0)

/-- The number of days of a month. -/
def daysIn (year : Int) (month : Nat) : Nat :=
  if month = 2 then (if isLeap year then 29 else 28)
  else if month = 4 ∨ month = 6 ∨ month = 9 ∨ month = 11 then 30
  else 31

end Date

/-- A point in time. -/
structure Stamp where
  micros : Int
  /-- How far the zone's clock is ahead of universal time, in minutes. -/
  zone : Option Int := none
  deriving DecidableEq, Repr, Inhabited

namespace Stamp

/-- A number written with at least `width` digits. -/
def padded (width n : Nat) : String :=
  let ds := Decimal.digitsOf n
  Decimal.digitText (List.replicate (width - ds.length) 0 ++ ds)

/-- The text of a zone. -/
def zoneText (minutes : Int) : String :=
  (if minutes < 0 then "-" else "+") ++ padded 2 (minutes.natAbs / 60) ++ ":" ++
    padded 2 (minutes.natAbs % 60)

/-- The text of a stamp; `separator` stands between date and time. -/
def textWith (separator : String) (s : Stamp) : String :=
  let days := s.micros.fdiv 86400000000
  let rest := (s.micros - days * 86400000000).toNat
  let date := Date.ofDays days
  let seconds := rest / 1000000
  let micros := rest % 1000000
  padded 4 date.year.toNat ++ "-" ++ padded 2 date.month ++ "-" ++ padded 2 date.day ++ separator ++
    padded 2 (seconds / 3600) ++ ":" ++ padded 2 (seconds / 60 % 60) ++ ":" ++
    padded 2 (seconds % 60) ++ (if micros = 0 then "" else "." ++ padded 6 micros) ++
    (match s.zone with
      | some minutes => zoneText minutes
      | none => "")

/-- The text of a stamp. -/
def text (s : Stamp) : String := textWith "T" s

/-- The stamp in universal time that lies `seconds` after the start of 1970. -/
def ofSeconds (seconds : Int) : Stamp := ⟨seconds * 1000000, none⟩

/-- The whole seconds since the start of 1970, in universal time. -/
def seconds (s : Stamp) : Int := (s.micros - s.zone.getD 0 * 60000000).fdiv 1000000

end Stamp

end Scriptorium
