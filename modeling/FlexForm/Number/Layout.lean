import FlexForm.Number.Shortest

/-! # Written floating point numbers

How the shortest digits of a number are laid out. One record holds the decisions of a format.

* `Layout`: the decisions.
* `Layout.display`, `Layout.compact`: the two formats in use.
* `Layout.write`: the text of a number.
-/

namespace FlexForm
set_option autoImplicit false

/-- The decisions of a format for floating point numbers. -/
structure Layout where
  /-- The least position of the point that is written without exponent. -/
  lowest : Int
  /-- The greatest position of the point that is written without exponent. -/
  highest : Int
  /-- Whether an exponent has a sign also when it is positive. -/
  signed : Bool
  /-- The least number of digits of an exponent. -/
  width : Nat
  notANumber : String
  infinite : String

namespace Layout

/-- Exponents from `1e+16` and down from `1e-05`, with a sign and two digits at least. -/
def display : Layout := ⟨-3, 16, true, 2, "nan", "inf"⟩

/-- As in `display`, with the names of the special numbers that a JSON text uses. -/
def token : Layout := { display with notANumber := "NaN", infinite := "Infinity" }

/-- Exponents from `1e16` and down from `1e-6`, as short as can be, and no special numbers. -/
def compact : Layout := ⟨-4, 16, false, 1, "null", "null"⟩

def exponent (l : Layout) (e : Int) : List Char :=
  let digits := Nat.toDigits 10 e.natAbs
  let padded := List.replicate (l.width - digits.length) '0' ++ digits
  if e < 0 then 'e' :: '-' :: padded else if l.signed then 'e' :: '+' :: padded else 'e' :: padded

/-- Digits with a point inside, before or behind them. -/
def positional (d : Decimal) : List Char :=
  let n := d.digits.length
  if d.point ≤ 0 then '0' :: '.' :: List.replicate (-d.point).toNat '0' ++ d.digits
  else
    let p := d.point.toNat
    if p < n then d.digits.take p ++ '.' :: d.digits.drop p
    else d.digits ++ List.replicate (p - n) '0' ++ ['.', '0']

/-- One digit before the point, and the rest behind it. -/
def scientific (l : Layout) (d : Decimal) : List Char :=
  match d.digits with
  | [] => []
  | [c] => c :: l.exponent (d.point - 1)
  | c :: rest => c :: '.' :: rest ++ l.exponent (d.point - 1)

def write (l : Layout) (x : Binary64) : List Char :=
  let sign := if x.isNegative then ['-'] else []
  if x.isNaN then l.notANumber.toList
  else if x.isInfinite then
    if l.infinite == "null" then l.infinite.toList else sign ++ l.infinite.toList
  else
    let d := x.shortest
    sign ++ (if l.lowest ≤ d.point && d.point ≤ l.highest then positional d else l.scientific d)

end Layout

end FlexForm
