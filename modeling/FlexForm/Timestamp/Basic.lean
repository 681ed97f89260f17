/-! # Points in time

A date with a time of day, and perhaps with its distance to universal time.

* `Timestamp.Fits`: the calendar's conditions on the parts.
* `Timestamp`: parts that meet them; `Timestamp.make?` checks them.
* `Timestamp.instant`, `Timestamp.atOffset?`: microseconds since the start of 1970, and back.
* `Timestamp.text`: the written form.
-/

namespace FlexForm
set_option autoImplicit false

/-! ## Calendar -/

def isLeapYear (year : Nat) : Bool := (year % 4 == 0 && year % 100 != 0) || year % 400 == 0

def daysIn (year month : Nat) : Nat :=
  match month with
  | 2 => if isLeapYear year then 29 else 28
  | 4 | 6 | 9 | 11 => 30
  | _ => 31

/-- The number of days from the start of 1970 to the start of a year. -/
def daysBefore (year : Nat) : Int :=
  let y : Int := year - 1
  y * 365 + y / 4 - y / 100 + y / 400 - 719162

/-- The number of days of a year before a month. -/
def daysBeforeMonth (year month : Nat) : Nat :=
  (List.range (month - 1)).foldl (fun days m => days + daysIn year (m + 1)) 0

/-- The number of days from the start of 1970 to a date. -/
def dayNumber (year month day : Nat) : Int :=
  daysBefore year + daysBeforeMonth year month + day - 1

/-- The month and the day with a number of days of the year before them, from a month on. -/
def monthAndDay (year : Nat) : Nat → Nat → Nat → Nat × Nat
  | 0, month, rest => (month, rest + 1)
  | fuel + 1, month, rest =>
    if rest < daysIn year month then (month, rest + 1)
    else monthAndDay year fuel (month + 1) (rest - daysIn year month)

/-- The date with a day number, as year, month and day. -/
def dateOf (number : Int) : Int × Nat × Nat :=
  let days := number + 719162
  let era := days / 146097
  let inEra := days % 146097
  let centuries := min (inEra / 36524) 3
  let inCentury := inEra - centuries * 36524
  let fours := inCentury / 1461
  let inFour := inCentury - fours * 1461
  let ones := min (inFour / 365) 3
  let year := era * 400 + centuries * 100 + fours * 4 + ones + 1
  let (month, day) := monthAndDay year.toNat 11 1 (inFour - ones * 365).toNat
  (year, month, day)

/-! ## Timestamps -/

/-- The conditions on the parts of a point in time. The distance is in seconds, in whole minutes
and less than a day. -/
def Timestamp.Fits (year month day hour minute second micro : Nat) (offset : Option Int) : Prop :=
  1 ≤ year ∧ year ≤ 9999 ∧ 1 ≤ month ∧ month ≤ 12 ∧ 1 ≤ day ∧ day ≤ daysIn year month ∧
    hour < 24 ∧ minute < 60 ∧ second < 60 ∧ micro < 1000000 ∧
    ∀ o ∈ offset, o.natAbs < 86400 ∧ o % 60 = 0

instance (year month day hour minute second micro : Nat) (offset : Option Int) :
    Decidable (Timestamp.Fits year month day hour minute second micro offset) :=
  inferInstanceAs (Decidable (_ ∧ _))

/-- A date with a time of day; without an offset it is not known how it lies to universal time. -/
structure Timestamp where
  year : Nat
  month : Nat
  day : Nat
  hour : Nat
  minute : Nat
  second : Nat
  micro : Nat
  /-- Seconds by which the local clock is ahead of universal time. -/
  offset : Option Int
  fits : Timestamp.Fits year month day hour minute second micro offset
  deriving DecidableEq

namespace Timestamp

def make? (year month day hour minute second micro : Nat) (offset : Option Int) :
    Option Timestamp :=
  if fits : Fits year month day hour minute second micro offset then
    some { year, month, day, hour, minute, second, micro, offset, fits }
  else none

/-- Microseconds since the start of 1970, where a missing offset counts as none. -/
def instant (t : Timestamp) : Int :=
  let seconds := dayNumber t.year t.month t.day * 86400 + t.hour * 3600 + t.minute * 60 + t.second
  (seconds - t.offset.getD 0) * 1000000 + t.micro

/-- The point in time so many microseconds after the start of 1970, on a clock with the offset. -/
def atOffset? (instant offset : Int) : Option Timestamp :=
  let local' := instant + offset * 1000000
  let seconds := local' / 1000000
  let (year, month, day) := dateOf (seconds / 86400)
  let inDay := (seconds % 86400).toNat
  if year < 1 then none
  else make? year.toNat month day (inDay / 3600) (inDay / 60 % 60) (inDay % 60)
    (local' % 1000000).toNat (some offset)

/-! ## Written form -/

def padded (width n : Nat) : String :=
  let digits := Nat.toDigits 10 n
  String.ofList (List.replicate (width - digits.length) '0' ++ digits)

def offsetText : Option Int → String
  | none => ""
  | some o =>
    if o == 0 then "Z"
    else
      let minutes := o.natAbs / 60
      (if o < 0 then "-" else "+") ++ padded 2 (minutes / 60) ++ ":" ++ padded 2 (minutes % 60)

/-- Date and time around a `T`, six digits of a second if there are any, and the offset. -/
def text (t : Timestamp) : String :=
  padded 4 t.year ++ "-" ++ padded 2 t.month ++ "-" ++ padded 2 t.day ++ "T" ++
    padded 2 t.hour ++ ":" ++ padded 2 t.minute ++ ":" ++ padded 2 t.second ++
    (if t.micro == 0 then "" else "." ++ padded 6 t.micro) ++ offsetText t.offset

theorem make?_eq_some (t : Timestamp) :
    make? t.year t.month t.day t.hour t.minute t.second t.micro t.offset = some t := by
  simp [make?, t.fits]

end Timestamp

end FlexForm
