import FlexForm.Text.Quoted

/-! # Paths

A path is written as segments between dots. A list index may also stand in brackets behind its
segment, so that `pages[0].cta` and `pages.0.cta` are the same path.

* `Path.segments`: the segments of a written path.
* `Path.isIndex`, `Path.index`: the segments that are numbers, and their values.
-/

namespace FlexForm.Path
set_option autoImplicit false

/-- Whether the text goes on with decimal digits and a closing bracket. -/
def closesIndex (s : List Char) : Bool :=
  !(s.takeWhile Text.isDecimalDigit).isEmpty && (s.dropWhile Text.isDecimalDigit).head? == some ']'

/-- The path with every bracketed index written as a segment; `inside` holds between the brackets
of one. -/
def unbracket (inside : Bool) : List Char → List Char
  | [] => []
  | c :: rest =>
    if inside then
      if c == ']' then unbracket false rest else c :: unbracket true rest
    else if c == '[' && closesIndex rest then '.' :: unbracket true rest
    else c :: unbracket false rest

def splitDots : List Char → List (List Char)
  | [] => [[]]
  | c :: rest =>
    if c == '.' then [] :: splitDots rest
    else match splitDots rest with
      | [] => [[c]]
      | piece :: pieces => (c :: piece) :: pieces

def segments (path : String) : List String :=
  (splitDots (unbracket false path.toList)).map String.ofList

/-- Whether the segment is made of digits only. -/
def isIndex (segment : String) : Bool := segment != "" && segment.toList.all Text.isDigit

/-- Why a segment of digits has no value. -/
inductive IndexFault where
  /-- Some of its digits are not decimal ones. -/
  | notDecimal (segment : String)
  /-- It has more digits than are read. -/
  | tooLong (count : Nat)
  deriving DecidableEq, Inhabited

def IndexFault.message : IndexFault → String
  | .notDecimal segment =>
    "invalid literal for int() with base 10: " ++ ((Text.quoted segment).take 200).toString
  | .tooLong count =>
    s!"Exceeds the limit (4300 digits) for integer string conversion: value has {count} digits; " ++
      "use sys.set_int_max_str_digits() to increase the limit"

/-- The value of a segment of digits. -/
def index (segment : String) : Except IndexFault Nat :=
  let values := segment.toList.map Text.decimalValue?
  let count := (values.takeWhile Option.isSome).length
  if count > 4300 then .error (.tooLong count)
  else if values.all Option.isSome then
    .ok (values.foldl (fun n v => n * 10 + v.getD 0) 0)
  else .error (.notDecimal segment)

theorem splitDots_ne_nil (s : List Char) : splitDots s ≠ [] := by
  cases s with
  | nil => simp [splitDots]
  | cons c rest =>
    simp only [splitDots]
    split
    · simp
    · split <;> simp

theorem segments_ne_nil (path : String) : segments path ≠ [] := by
  simp [segments, splitDots_ne_nil]

end FlexForm.Path
