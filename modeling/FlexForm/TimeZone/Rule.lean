import FlexForm.Timestamp.Basic

/-! # Rules for the clocks of a zone

The clocks of a zone are ahead of universal time by a fixed offset, or by one offset in winter and
another one in summer.

* `TimeZone.Change`: when the clocks are changed, such as the last Sunday of a month.
* `TimeZone.Rule`, `TimeZone.Rule.offsetAt`: the offsets, and the one that holds at a moment.
-/

namespace FlexForm.TimeZone
set_option autoImplicit false

/-- A weekday in one of the weeks of a month, and seconds after its midnight. Sunday is weekday 0,
and week 5 is the last one in which the weekday occurs. -/
structure Change where
  month : Nat
  week : Nat
  weekday : Nat
  seconds : Int := 7200
  deriving DecidableEq

/-- The clocks in summer. -/
structure Summer where
  /-- Seconds by which they are ahead of universal time. -/
  offset : Int
  start : Change
  stop : Change
  deriving DecidableEq

structure Rule where
  /-- Seconds by which the clocks are ahead of universal time, but for the summer. -/
  offset : Int
  summer : Option Summer := none
  deriving DecidableEq

/-- The number of the day of a change in a year, counted from the start of 1970. -/
def Change.dayIn (c : Change) (year : Nat) : Int :=
  let first := dayNumber year c.month 1
  let weekdayOfFirst := (first + 4) % 7
  let toWeekday := (c.weekday - weekdayOfFirst) % 7
  let day := toWeekday + 7 * (c.week - 1 : Int)
  first + (if day < daysIn year c.month then day else day - 7)

/-- The moment of a change in a year on clocks with the offset, in seconds since the start of
1970. -/
def Change.momentIn (c : Change) (year : Nat) (offset : Int) : Int :=
  c.dayIn year * 86400 + c.seconds - offset

/-- Whether the clocks show summer time so many seconds after the start of 1970, when they are ahead
by the offset in winter. -/
def Summer.holdsAt (s : Summer) (offset moment : Int) : Bool :=
  let (year, _, _) := dateOf ((moment + offset) / 86400)
  let start := s.start.momentIn year.toNat offset
  let stop := s.stop.momentIn year.toNat s.offset
  if start < stop then start ≤ moment && moment < stop else start ≤ moment || moment < stop

/-- The offset of the clocks so many seconds after the start of 1970. -/
def Rule.offsetAt (r : Rule) (moment : Int) : Int :=
  match r.summer with
  | none => r.offset
  | some s => if s.holdsAt r.offset moment then s.offset else r.offset

end FlexForm.TimeZone
