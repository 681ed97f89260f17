import FlexForm.Record.Loader
import FlexForm.Timestamp.Basic

/-! # Reading points in time

A point in time is read from a text, or from a number of seconds or milliseconds since the start of
1970. A date alone stands for its first moment.

* `Timestamp.ofText?`: the point in time that a text stands for, if it is written as one.
* `Timestamp.dateFault?`: what is wrong with a text as a date.
* `Timestamp.load`: reading from a JSON value.
-/

namespace FlexForm.Timestamp
set_option autoImplicit false

-- Powers are the built-in ones, also where a library of algebra brings others.
attribute [local instance (high)] instPowNat

/-! ## Dates -/

/-- What is wrong with a text as a date. -/
inductive DateFault where
  | short
  | year
  | month
  | day
  | separator
  | monthRange
  | dayRange
  | extra
  | yearZero
  | early
  | late
  | inexact
  deriving DecidableEq

def DateFault.message : DateFault → String
  | .short => "input is too short"
  | .year => "invalid character in year"
  | .month => "invalid character in month"
  | .day => "invalid character in day"
  | .separator => "invalid date separator, expected `-`"
  | .monthRange => "month value is outside expected range of 1-12"
  | .dayRange => "day value is outside expected range"
  | .extra => "unexpected extra characters at the end of the input"
  | .yearZero => "year 0 is out of range"
  | .early => "dates before 1600 are not supported as unix timestamps"
  | .late => "dates after 9999 are not supported as unix timestamps"
  | .inexact => "datetimes provided to dates should have zero time - e.g. be exact dates"

/-- Year, month and day at the start of a text, and what follows them. -/
def readDate (s : List Char) : Except DateFault ((Nat × Nat × Nat) × List Char) :=
  match s with
  | y1 :: y2 :: y3 :: y4 :: d1 :: m1 :: m2 :: d2 :: a1 :: a2 :: rest =>
    let year := [y1, y2, y3, y4]
    let month := [m1, m2]
    let day := [a1, a2]
    if !year.all Char.isDigit then .error .year
    else if d1 != '-' then .error .separator
    else if !month.all Char.isDigit then .error .month
    else if d2 != '-' then .error .separator
    else if !day.all Char.isDigit then .error .day
    else
      let y := Json.decimalOf year
      let m := Json.decimalOf month
      let d := Json.decimalOf day
      if m < 1 || 12 < m then .error .monthRange
      else if d < 1 || daysIn y m < d then .error .dayRange
      else .ok ((y, m, d), rest)
  | _ => .error .short

/-! ## Times -/

def readPair? (s : List Char) : Option (Nat × List Char) :=
  match s with
  | a :: b :: rest =>
    if a.isDigit && b.isDigit then some (Json.decimalOf [a, b], rest) else none
  | _ => none

/-- The fraction of a second in microseconds, further digits being cut off. -/
def readMicros? (s : List Char) : Option (Nat × List Char) :=
  match s with
  | c :: rest =>
    if c == '.' || c == ',' then
      let digits := rest.takeWhile Char.isDigit
      if digits.isEmpty then none
      else
        let six := digits.take 6 ++ List.replicate (6 - digits.length) '0'
        some (Json.decimalOf six, rest.dropWhile Char.isDigit)
    else some (0, s)
  | [] => some (0, [])

/-- The seconds with their fraction, when the text goes on with them. -/
def readSeconds? (s : List Char) : Option ((Nat × Nat) × List Char) :=
  match s with
  | ':' :: rest => do
    let (second, rest) ← readPair? rest
    let (micro, rest) ← readMicros? rest
    pure ((second, micro), rest)
  | _ => some ((0, 0), s)

/-- The offset at the end of a text; nothing may follow it. -/
def readOffset? (s : List Char) : Option (Option Int) :=
  match s with
  | [] => some none
  | ['Z'] | ['z'] => some (some 0)
  | sign :: rest => do
    let ahead ← if sign == '+' then some true
      else if sign == '-' || sign == '\u2212' then some false else none
    let (hours, rest) ← readPair? rest
    let (minutes, rest) ← match rest with
      | ':' :: rest => readPair? rest
      | rest => readPair? rest
    if !rest.isEmpty || minutes ≥ 60 || hours ≥ 24 then none
    else
      let seconds : Int := hours * 3600 + minutes * 60
      some (some (if ahead then seconds else -seconds))

/-- The point in time that a text stands for: a date, a separator, a time and perhaps an offset. -/
def ofText? (s : List Char) : Option Timestamp :=
  match readDate s with
  | .error _ => none
  | .ok ((year, month, day), rest) =>
    match rest with
    | sep :: rest => do
      if !(['T', 't', ' ', '_'].contains sep) then none
      let (hour, rest) ← readPair? rest
      let rest ← match rest with
        | ':' :: rest => some rest
        | _ => none
      let (minute, rest) ← readPair? rest
      let ((second, micro), rest) ← readSeconds? rest
      let offset ← readOffset? rest
      make? year month day hour minute second micro offset
    | [] => none

/-! ## Numbers -/

/-- Numbers beyond this one count milliseconds. -/
def watershed : Int := 20000000000

/-- The point in time so many seconds or milliseconds, and microseconds, after the start of 1970. -/
def ofNumber (n : Int) (micros : Nat) : Except DateFault Timestamp :=
  let (seconds, more) : Int × Int :=
    if n.natAbs ≤ watershed.natAbs then (n, 0)
    else (n / 1000, n % 1000 * 1000)
  if n ≤ -(2 ^ (63 : Nat)) || seconds < -11676096000 then .error .early
  else if seconds > 253402300799 then .error .late
  else match atOffset? (seconds * 1000000 + more + micros) 0 with
    | some t => .ok t
    | none => .error .late

/-- The point in time so many seconds or milliseconds after the start of 1970. -/
def ofFloat (x : Binary64) : Except DateFault Timestamp :=
  let scaled := x.rank
  let whole := scaled / 2 ^ (1074 : Nat)
  let rest := (scaled.tmod (2 ^ (1074 : Nat))).natAbs
  let bounded := max (-(2 ^ (63 : Nat))) (min whole (2 ^ (63 : Nat) - 1))
  ofNumber bounded (Binary64.roundDiv (rest * 1000000) (2 ^ (1074 : Nat)))

/-- The decimal number that a text is, with the digits behind the point. -/
def numberOf? (s : List Char) : Option (Int × List Char) :=
  let (negative, digits) := match s with
    | '-' :: rest => (true, rest)
    | '+' :: rest => (false, rest)
    | _ => (false, s)
  let whole := digits.takeWhile Char.isDigit
  let n : Int := Json.decimalOf whole
  let n := if negative then -n else n
  if whole.isEmpty || n.natAbs ≥ 2 ^ (63 : Nat) then none
  else match digits.dropWhile Char.isDigit with
    | [] => some (n, [])
    | '.' :: fraction => if fraction.all Char.isDigit then some (n, fraction) else none
    | _ => none

/-- The point in time that a text stands for as a number. -/
def ofNumberText? (s : List Char) : Option Timestamp :=
  match numberOf? s with
  | none => none
  | some (n, []) => (ofNumber n 0).toOption
  | some (n, fraction) =>
    let x := Binary64.ofDecimal (s.head? == some '-')
      (Json.decimalOf (Nat.toDigits 10 n.natAbs ++ fraction)) (-fraction.length)
    (ofFloat x).toOption

/-! ## Values -/

def readDateText (s : List Char) : Except DateFault (Nat × Nat × Nat) :=
  let plain : Except DateFault (Nat × Nat × Nat) :=
    match readDate s with
    | .ok ((0, _, _), []) => .error .yearZero
    | .ok (date, []) => .ok date
    | .ok _ => .error .extra
    | .error e => .error e
  match plain with
  | .ok date => .ok date
  | .error .yearZero => .error .yearZero
  | .error e =>
    match numberOf? s with
    | some (n, []) =>
      match ofNumber n 0 with
      | .error fault => .error fault
      | .ok _ => .error .inexact
    | _ => .error e

def load : Load.Loader Timestamp
  | .str s =>
    let cs := s.toList
    match (ofText? cs).or (ofNumberText? cs) with
    | some t => .ok t
    | none =>
      match readDateText cs with
      | .error fault => .fail (.unreadableDate fault.message) (.str s)
      | .ok (year, month, day) =>
        match make? year month day 0 0 0 0 none with
        | some t => .ok t
        | none => .fail .notTimestamp (.str s)
  | .int n =>
    let found := if n.natAbs < 2 ^ (63 : Nat) then ofNumber n 0
      else match Binary64.ofInt? n with
        | some x => ofFloat x
        | none => .error (if n < 0 then .early else .late)
    match found with
    | .ok t => .ok t
    | .error fault => .fail (.unreadableTimestamp fault.message) (.int n)
  | .float x =>
    if x.isNaN then .fail (.unreadableTimestamp "NaN values not permitted") (.float x)
    else match ofFloat x with
      | .ok t => .ok t
      | .error fault => .fail (.unreadableTimestamp fault.message) (.float x)
  | v => .fail .notTimestamp v

end FlexForm.Timestamp
