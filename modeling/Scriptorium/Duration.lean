import Scriptorium.Decimal.Fixed
import Scriptorium.Fault
set_option autoImplicit false

/-!
# Lengths of time

A duration is a whole number of microseconds.  Minutes are rounded to it, a half going to the
even neighbour, and a stamp moved by a duration has to stay in the years 1 to 9999.
-/

namespace Scriptorium

/-- A length of time, which may be negative. -/
structure Duration where
  micros : Int
  deriving DecidableEq, Repr, Inhabited

namespace Duration

/-- The microseconds of a minute. -/
def minute : Int := 60000000

/-- The microseconds of a day. -/
def day : Int := 86400000000

/-- The whole number nearest to a float, a half going to the even neighbour; zero for what is
no number. -/
def nearest (x : Float) : Int :=
  match Decimal.read x with
  | .finite b =>
    let (num, den) := b.magnitudeFraction
    let n : Int := Decimal.roundDiv num den
    if b.negative then -n else n
  | _ => 0

/-- The microseconds of a number of minutes.  The part of a float behind the point is
multiplied as a float and then rounded. -/
def microsOfMinutes : Value → Outcome Int
  | .int n => .ok (n * minute)
  | .bool b => .ok (if b then minute else 0)
  | .float x => match Decimal.read x with
    | .finite b => .ok (b.truncate * minute + nearest (60000000.0 * (x - Decimal.ofInt b.truncate)))
    | .infinite _ => .error (.outOfRange "cannot convert float infinity to integer")
    | .nan => .error (.unaccepted "cannot convert float NaN to integer")
  | v => .error (.notMinutes v.kind)

/-- The greatest number of days of a duration. -/
def dayLimit : Nat := 999999999

/-- The duration of a number of minutes.  The number of its days has to be a word of 32 bits
before it is compared with the limit. -/
def ofMinutes (v : Value) : Outcome Duration := do
  let micros ← microsOfMinutes v
  let days := micros.fdiv day
  if days < -Int.pow 2 31 ∨ Int.pow 2 31 ≤ days then
    .error (.outOfRange "Python int too large to convert to C int")
  else if dayLimit < days.natAbs then
    .error (.outOfRange s!"days={days}; must have magnitude <= {dayLimit}")
  else return ⟨micros⟩

end Duration

namespace Stamp

/-- The stamp that lies a duration after another one, if its year can be written. -/
def after (s : Stamp) (d : Duration) : Outcome Stamp :=
  let moved : Stamp := ⟨s.micros + d.micros, s.zone⟩
  let year := (Date.ofDays (moved.micros.fdiv Duration.day)).year
  if 1 ≤ year ∧ year ≤ 9999 then .ok moved
  else .error (.outOfRange "date value out of range")

end Stamp

end Scriptorium
