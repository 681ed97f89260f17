/-! # Binary floating point numbers of 64 bits

A number is given by its bits, so two numbers are equal as Lean values exactly when their bits are.
Its exact value is an integer multiple of `2 ^ -1074`.

* `Binary64`, `magnitude`, `scaled`: the bits, and the exact value counted in units of `2 ^ -1074`.
* `less`, `same`, `compareInt?`: the numeric order, in which a NaN is not comparable.
* `ofRatio`, `ofDecimal`, `ofInt?`: the nearest number, a tie going to the even neighbour.
* `add`, `sub`, `mul`, `div`, `rem`, `floorDiv`, `pow`: arithmetic; `floor?` and `trunc?` give
  integers.
-/

namespace FlexForm
set_option autoImplicit false

-- Powers are the built-in ones, also where a library of algebra brings others.
attribute [local instance (high)] instPowNat

/-- A floating point number, by its bits. -/
structure Binary64 where
  bits : UInt64
  deriving DecidableEq, Inhabited

namespace Binary64

/-! ## Parts and classes -/

def isNegative (x : Binary64) : Bool := x.bits.toNat ≥ 2 ^ (63 : Nat)

def exponentBits (x : Binary64) : Nat := x.bits.toNat / 2 ^ (52 : Nat) % 2 ^ (11 : Nat)

def fractionBits (x : Binary64) : Nat := x.bits.toNat % 2 ^ (52 : Nat)

/-- Neither infinite nor a NaN. -/
def isFinite (x : Binary64) : Bool := x.exponentBits != 2047

def isNaN (x : Binary64) : Bool := x.exponentBits == 2047 && x.fractionBits != 0

def isInfinite (x : Binary64) : Bool := x.exponentBits == 2047 && x.fractionBits == 0

/-- The significand with its hidden bit, for a finite number. -/
def significand (x : Binary64) : Nat :=
  if x.exponentBits == 0 then x.fractionBits else 2 ^ (52 : Nat) + x.fractionBits

/-- The exponent of two above `-1074` that goes with the significand. -/
def shift (x : Binary64) : Nat := x.exponentBits - 1

/-- The absolute value of a finite number, in units of `2 ^ -1074`. -/
def magnitude (x : Binary64) : Nat := x.significand * 2 ^ x.shift

/-- The value of a finite number, in units of `2 ^ -1074`. -/
def scaled (x : Binary64) : Int :=
  if x.isNegative then -(x.magnitude : Int) else x.magnitude

def isZero (x : Binary64) : Bool := x.isFinite && x.significand == 0

/-! ## Constants -/

def ofParts (negative : Bool) (rest : Nat) : Binary64 :=
  ⟨UInt64.ofNat (if negative then 2 ^ (63 : Nat) + rest else rest)⟩

def zero (negative : Bool) : Binary64 := ofParts negative 0

def infinity (negative : Bool) : Binary64 := ofParts negative (2047 * 2 ^ (52 : Nat))

def nan : Binary64 := ofParts false (2047 * 2 ^ (52 : Nat) + 2 ^ (51 : Nat))

def neg (x : Binary64) : Binary64 := ⟨x.bits ^^^ 0x8000000000000000⟩

/-! ## Order -/

/-- The place of a number that is no NaN, where the infinities lie beyond all finite numbers. -/
def rank (x : Binary64) : Int :=
  if x.isFinite then x.scaled else if x.isNegative then -(2 ^ (2200 : Nat)) else 2 ^ (2200 : Nat)

def less (x y : Binary64) : Bool := !x.isNaN && !y.isNaN && x.rank < y.rank

/-- Numeric equality: both zeros are equal, and a NaN equals nothing. -/
def same (x y : Binary64) : Bool := !x.isNaN && !y.isNaN && x.rank == y.rank

/-- How the number lies to an integer of any size; a NaN has no answer. -/
def compareInt? (x : Binary64) (n : Int) : Option Ordering :=
  if x.isNaN then none
  else if x.isFinite then some (compare x.scaled (n * 2 ^ (1074 : Nat)))
  else some (if x.isNegative then .lt else .gt)

/-! ## Rounding -/

/-- The quotient rounded to the nearest integer, a tie going to the even one. -/
def roundDiv (num den : Nat) : Nat :=
  let q := num / den
  let twice := 2 * (num % den)
  if twice < den then q else if den < twice then q + 1 else if q % 2 == 0 then q else q + 1

/-- The number nearest to the positive quotient `num / den`. -/
def ofRatio (negative : Bool) (num den : Nat) : Binary64 :=
  if num == 0 then zero negative
  else
    let guess : Int := (Nat.log2 num : Int) - (Nat.log2 den : Int) - 52
    let quotient (e : Int) : Nat × Nat :=
      if e < 0 then (num * 2 ^ (-e).toNat, den) else (num, den * 2 ^ e.toNat)
    let exact (e : Int) : Nat := (quotient e).1 / (quotient e).2
    let e := max (if exact guess < 2 ^ (52 : Nat) then guess - 1 else guess) (-1074)
    let m := roundDiv (quotient e).1 (quotient e).2
    let rest := (e + 1074).toNat * 2 ^ (52 : Nat) + m
    if rest ≥ 2047 * 2 ^ (52 : Nat) then infinity negative else ofParts negative rest

/-- The number nearest to `digits * 10 ^ exponent`. -/
def ofDecimal (negative : Bool) (digits : Nat) (exponent : Int) : Binary64 :=
  let size : Int := (Nat.log2 digits : Int) * 301 / 1000 + exponent
  if digits == 0 then zero negative
  else if size > 330 then infinity negative
  else if size < -360 then zero negative
  else if exponent < 0 then ofRatio negative digits (10 ^ (-exponent).toNat)
  else ofRatio negative (digits * 10 ^ exponent.toNat) 1

/-- The number nearest to an integer, if it is not beyond the finite numbers. -/
def ofInt? (n : Int) : Option Binary64 :=
  let x := ofRatio (n < 0) n.natAbs 1
  if x.isFinite then some x else none

/-- The integral part of a finite number, toward zero. -/
def trunc? (x : Binary64) : Option Int :=
  if x.isFinite then some (x.scaled.tdiv (2 ^ (1074 : Nat))) else none

/-- Whether the number is finite and has no fractional part. -/
def isIntegral (x : Binary64) : Bool := x.isFinite && x.magnitude % 2 ^ (1074 : Nat) == 0

/-! ## Arithmetic -/

private def lift (f : Float → Float → Float) (x y : Binary64) : Binary64 :=
  ⟨(f (Float.ofBits x.bits) (Float.ofBits y.bits)).toBits⟩

def add (x y : Binary64) : Binary64 := lift (· + ·) x y

def sub (x y : Binary64) : Binary64 := lift (· - ·) x y

def mul (x y : Binary64) : Binary64 := lift (· * ·) x y

def div (x y : Binary64) : Binary64 := lift (· / ·) x y

def pow (x y : Binary64) : Binary64 := lift Float.pow x y

def floor (x : Binary64) : Binary64 := ⟨(Float.ofBits x.bits).floor.toBits⟩

/-- The exact remainder, with the sign of the dividend. -/
def truncRem (x y : Binary64) : Binary64 :=
  if x.isNaN || y.isNaN || x.isInfinite || y.isZero then nan
  else if y.isInfinite then x
  else ofRatio x.isNegative (x.magnitude % y.magnitude) (2 ^ (1074 : Nat))

/-- The remainder that goes with the quotient rounded down: it has the sign of the divisor. -/
def rem (x y : Binary64) : Binary64 :=
  let r := truncRem x y
  if r.isZero then zero y.isNegative
  else if r.isNegative != y.isNegative && !r.isNaN then r.add y else r

def floorDiv (x y : Binary64) : Binary64 :=
  let r := truncRem x y
  let q := (x.sub r).div y
  let q := if !r.isZero && r.isNegative != y.isNegative && !r.isNaN
    then q.sub (ofRatio false 1 1) else q
  if q.isZero then zero (x.isNegative != y.isNegative)
  else
    let low := q.floor
    if less (ofRatio false 1 2) (q.sub low) then low.add (ofRatio false 1 1) else low

/-! ## Small facts -/

theorem isNaN_eq_false_of_isFinite {x : Binary64} (h : x.isFinite = true) : x.isNaN = false := by
  have he : (x.exponentBits == 2047) = false := by simpa [isFinite] using h
  simp [isNaN, he]

end Binary64

end FlexForm
