import FlexForm.Number.Binary64

/-! # The fewest digits that read back

Every finite number is the nearest one to a whole interval of reals. Among the decimals of that
interval those with the fewest digits are looked for, and of these the nearest to the number.

* `Binary64.Halo`: the interval, over a common denominator.
* `Decimal` and `Binary64.shortest`: the digits found and where the point stands.
-/

namespace FlexForm
set_option autoImplicit false

-- Powers are the built-in ones, also where a library of algebra brings others.
attribute [local instance (high)] instPowNat

/-- The positive decimal `0.d₁d₂… * 10 ^ point`, without zeros at the end of its digits. -/
structure Decimal where
  digits : List Char
  point : Int
  deriving DecidableEq, Inhabited

namespace Binary64

/-- The reals that round to a number: from `low / den` to `high / den`, around `mid / den`, with
the ends included when `closed` holds. -/
structure Halo where
  low : Nat
  mid : Nat
  high : Nat
  den : Nat
  closed : Bool

/-- The interval of the reals that round to the absolute value of `x`. -/
def halo (x : Binary64) : Halo :=
  let m := x.significand
  let below := if x.fractionBits == 0 && x.exponentBits > 1 then 1 else 2
  let unit := 2 ^ x.shift
  ⟨(4 * m - below) * unit, 4 * m * unit, (4 * m + 2) * unit, 2 ^ (1076 : Nat), m % 2 == 0⟩

/-- Whether `num / den` lies in the interval. -/
def Halo.has (h : Halo) (num den : Nat) : Bool :=
  if h.closed then h.low * den ≤ num * h.den && num * h.den ≤ h.high * den
  else h.low * den < num * h.den && num * h.den < h.high * den

/-- The power of ten just above the middle: `mid / den < 10 ^ top`, but not a tenth of it. -/
def Halo.top (h : Halo) : Int :=
  let guess : Int := ((Nat.log2 h.mid : Int) - (Nat.log2 h.den : Int)) * 30103 / 100000
  let above (e : Int) : Bool :=
    if e < 0 then h.mid * 10 ^ (-e).toNat < h.den else h.mid < h.den * 10 ^ e.toNat
  if above (guess - 1) then guess - 1
  else if above guess then guess
  else if above (guess + 1) then guess + 1
  else guess + 2

/-- The nearest decimal of the interval on the grid of `10 ^ step`, as a multiple of the step. -/
def Halo.onGrid? (h : Halo) (step : Int) : Option Nat :=
  let up := 10 ^ step.toNat
  let down := 10 ^ (-step).toNat
  let base := h.mid * down / (h.den * up)
  let rest := h.mid * down % (h.den * up)
  let hit (c : Nat) : Bool := h.has (c * up) down
  match hit base, hit (base + 1) with
  | true, true =>
    some (if 2 * rest < h.den * up || (2 * rest == h.den * up && base % 2 == 0)
      then base else base + 1)
  | true, false => some base
  | false, true => some (base + 1)
  | false, false => none

/-- The first grid with a hit, from `n` digits on and for at most `fuel` further grids. -/
def Halo.search (h : Halo) : Nat → Nat → Nat × Int
  | 0, n => (h.mid / h.den, n)
  | fuel + 1, n =>
    let step := h.top - n
    match h.onGrid? step with
    | some c => (c, step)
    | none => h.search fuel (n + 1)

/-- The fewest digits that read back as the absolute value of a finite number. -/
def shortest (x : Binary64) : Decimal :=
  if x.significand == 0 then ⟨['0'], 1⟩
  else
    let (c, step) := x.halo.search 17 1
    let digits := Nat.toDigits 10 c
    ⟨(digits.reverse.dropWhile (· == '0')).reverse, digits.length + step⟩

end Binary64

end FlexForm
