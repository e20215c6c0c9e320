import Scriptorium.Decimal.Scan
import Scriptorium.Stamp
import Scriptorium.Text.Quoted
set_option autoImplicit false

/-!
# Reading points in time

A point in time is written as a date, any one character, and a time with or without a zone.  A
date is a day of a month or of a week, with hyphens or without; a time has hours, minutes,
seconds and a fraction, of which any but the hours may be left out at the end.  The zone is read
and then left out: what counts is the clock of the writer.
-/

namespace Scriptorium.Stamp

/-- What is wrong with a text for a point in time. -/
inductive Misreading where
  | malformed
  | year (given : Int)
  | month
  | day
  | hour
  | minute
  | second
  /-- A zone of a day or more, in microseconds. -/
  | zone (micros : Int)
  deriving DecidableEq, Repr

/-- A length of time in days, seconds and microseconds, of which those that are zero are left
out. -/
def spanText (micros : Int) : String :=
  let days := micros.fdiv 86400000000
  let rest := micros - days * 86400000000
  let parts := [("days", days), ("seconds", rest / 1000000), ("microseconds", rest % 1000000)]
  let shown := parts.filterMap fun (name, n) =>
    if n = 0 then none else some (name ++ "=" ++ Decimal.wholeText n)
  "datetime.timedelta(" ++ ", ".intercalate shown ++ ")"

/-- The wording of what is wrong with a text. -/
def Misreading.message [Halves] (text : String) : Misreading → String
  | malformed => s!"Invalid isoformat string: {Text.quoted text}"
  | year given => s!"year {Decimal.wholeText given} is out of range"
  | month => "month must be in 1..12"
  | day => "day is out of range for month"
  | hour => "hour must be in 0..23"
  | minute => "minute must be in 0..59"
  | second => "second must be in 0..59"
  | zone micros =>
    "offset must be a timedelta strictly between -timedelta(hours=24) and " ++
      s!"timedelta(hours=24), not {spanText micros}."

/-- The number of exactly `count` digits, and what follows them. -/
def digits? (count : Nat) (cs : List Char) : Option (Nat × List Char) := do
  let ds ← (cs.take count).mapM Decimal.digit?
  if ds.length = count then some (Decimal.natOf ds, cs.drop count) else none

/-! ## Dates -/

/-- The place of the character between date and time. -/
def separatorAt (cs : List Char) : Nat :=
  let digitAt (i : Nat) : Bool := ((cs[i]?).bind Decimal.digit?).isSome
  if cs.length = 7 then 7
  else if cs[4]? = some '-' then
    if cs[5]? = some 'W' then
      if cs[8]? = some '-' then if digitAt 10 then 8 else 10 else 8
    else 10
  else if cs[4]? = some 'W' then
    let run := 7 + ((cs.drop 7).takeWhile fun c => (Decimal.digit? c).isSome).length
    if run < 9 then run else if run % 2 = 0 then 7 else 8
  else 8

/-- The weekday of the first of January, from Monday on. -/
def firstWeekday (year : Nat) : Nat :=
  (((Date.mk year 1 1).toDays + 3).emod 7).toNat

/-- The date of a day of a week.  The first week of a year holds its first Thursday.  A day before
the year 1 is in no month. -/
def dateOfWeek? (year week day : Nat) : Option Date :=
  let first := firstWeekday year
  let long := first = 3 ∨ (first = 2 ∧ Date.isLeap year)
  if week < 1 ∨ 53 < week ∨ (week = 53 ∧ ¬long) ∨ day < 1 ∨ 7 < day then none
  else
    let newYear := (Date.mk year 1 1).toDays
    let monday := if first ≤ 3 then newYear - first else newYear - first + 7
    let date := Date.ofDays (monday + (week - 1 : Nat) * 7 + (day - 1 : Nat))
    some (if date.year < 1 then ⟨1, 0, 1⟩ else date)

/-- Reads a date of `length` characters at the front of a text. -/
def readDate? (length : Nat) (cs : List Char) : Option Date := do
  let (year, rest) ← digits? 4 cs
  let (hyphens, rest) := match rest with
    | '-' :: more => (true, more)
    | _ => (false, rest)
  let behindHyphen (cs : List Char) : Option (List Char) := match hyphens, cs with
    | false, cs => some cs
    | true, '-' :: more => some more
    | true, _ => none
  match rest with
  | 'W' :: rest =>
    let (week, rest) ← digits? 2 rest
    if cs.length - rest.length < length then
      let (day, _) ← digits? 1 (← behindHyphen rest)
      dateOfWeek? year week day
    else dateOfWeek? year week 1
  | _ =>
    let (month, rest) ← digits? 2 rest
    let (day, _) ← digits? 2 (← behindHyphen rest)
    return ⟨year, month, day⟩

/-! ## Times -/

/-- Hours, minutes, seconds and microseconds, and whether anything is left behind them. -/
structure Clock where
  hour : Nat := 0
  minute : Nat := 0
  second : Nat := 0
  micro : Nat := 0
  leftover : Bool := false
  deriving DecidableEq, Repr

/-- Reads a fraction of a second; digits behind the sixth are not looked at. -/
def readFraction? (clock : Clock) (cs : List Char) : Option Clock := do
  let count := min 6 cs.length
  let (n, rest) ← digits? count cs
  return { clock with
    micro := n * Nat.pow 10 (6 - count)
    leftover := !(rest.dropWhile fun c => (Decimal.digit? c).isSome).isEmpty }

/-- Puts the next of hours, minutes and seconds, of which `left` are still to come. -/
def Clock.put (clock : Clock) (left n : Nat) : Clock :=
  match left with
  | 2 => { clock with hour := n }
  | 1 => { clock with minute := n }
  | _ => { clock with second := n }

/-- Reads two digits each for hours, minutes and seconds, with colons between all or none, and a
fraction.  `left` is the number of them still to come behind the next. -/
def readClockFrom? : Nat → Bool → Clock → List Char → Option Clock
  | left, colons, clock, cs => do
    let (n, rest) ← digits? 2 cs
    let clock := clock.put left n
    match rest with
    | [] => return clock
    | [c] => if c.toNat < 0x80 then return { clock with leftover := true } else none
    | c :: more =>
      let colons := if left = 2 then c == ':' else colons
      let next ←
        if colons && c == ':' then some (some more)
        else if c == '.' || c == ',' then some none
        else if !colons then some (some rest)
        else none
      match left, next with
      | _, none => readFraction? clock more
      | 0, some after => readFraction? clock after
      | left + 1, some after => readClockFrom? left colons clock after

/-- Reads a time without a zone. -/
def readClock? (cs : List Char) : Option Clock := readClockFrom? 2 true {} cs

/-- Whether a character begins a zone. -/
def startsZone (c : Char) : Bool := c == '+' || c == '-' || c == 'Z'

/-- The microseconds of a clock that shows how far a zone is ahead. -/
def Clock.micros (clock : Clock) : Int :=
  ((clock.hour * 3600 + clock.minute * 60 + clock.second) * 1000000 + clock.micro : Nat)

/-- Reads a time, and its zone in microseconds. -/
def readTime? (cs : List Char) : Option (Clock × Int) := do
  let (time, zone) := cs.span (!startsZone ·)
  let clock ← readClock? time
  match zone with
  | [] => if clock.leftover then none else return (clock, 0)
  | sign :: rest =>
    if sign == 'Z' then if rest.isEmpty then return (clock, 0) else none
    else
      let zone ← readClock? rest
      if zone.leftover then none
      else return (clock, if sign == '-' then -zone.micros else zone.micros)

/-! ## Both -/

/-- The point in time of a date and a time whose parts are in their ranges. -/
def ofParts (date : Date) (clock : Clock) : Except Misreading Stamp :=
  if date.year < 1 ∨ 9999 < date.year then .error (.year date.year)
  else if date.month < 1 ∨ 12 < date.month then .error .month
  else if date.day < 1 ∨ Date.daysIn date.year date.month < date.day then .error .day
  else if 23 < clock.hour then .error .hour
  else if 59 < clock.minute then .error .minute
  else if 59 < clock.second then .error .second
  else .ok ⟨date.toDays * 86400000000 + clock.micros, none⟩

/-- Reads a point in time. -/
def read (s : String) : Except Misreading Stamp :=
  let cs := s.toList
  let parts : Option (Date × Clock × Int) := do
    if cs.length < 7 then none
    let place := separatorAt cs
    let date ← readDate? place cs
    match cs.drop place with
    | [] => return (date, {}, 0)
    | _ :: time =>
      let (clock, zone) ← readTime? time
      return (date, clock, zone)
  match parts with
  | none => .error .malformed
  | some (date, clock, zone) =>
    if 86400000000 ≤ zone.natAbs then .error (.zone zone) else ofParts date clock

end Scriptorium.Stamp
