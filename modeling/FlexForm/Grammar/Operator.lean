import FlexForm.Grammar.Expr
import FlexForm.Text.Search

/-! # Operators

Arithmetic on integers of any size and on floating point numbers, concatenation and repetition, the
order of values, and membership.

* `Number`, `Value.number?`: numbers, where a truth value counts as one or zero.
* `Binary.apply`, `Unary.apply`: the operators of arithmetic.
* `Comparison.holds`: equality, order and membership.
-/

namespace FlexForm.Grammar
set_option autoImplicit false

-- Powers are the built-in ones, also where a library of algebra brings others.
attribute [local instance (high)] instPowNat

/-! ## Numbers -/

inductive Number where
  | int (n : Int)
  | float (x : Binary64)

def Value.number? : Value → Option Number
  | .bool b => some (.int (if b then 1 else 0))
  | .int n => some (.int n)
  | .float x => some (.float x)
  | _ => none

def Number.value : Number → Value
  | .int n => .int n
  | .float x => .float x

/-- The number as a floating point number, if it is not too large. -/
def Number.toFloat : Number → Except Fault Binary64
  | .float x => .ok x
  | .int n =>
    match Binary64.ofInt? n with
    | some x => .ok x
    | none => .error .largeInteger

/-- The quotient of two integers, rounded once. -/
def trueQuotient (a b : Int) : Except Fault Value :=
  if b == 0 then .error .division
  else
    let q := Binary64.ofRatio ((a < 0) != (b < 0)) a.natAbs b.natAbs
    if q.isFinite then .ok (.float q) else .error .largeQuotient

/-- A power of floating point numbers; a negative number has no fractional powers here. -/
def floatPower (x y : Binary64) : Except Fault Value :=
  if x.isZero && y.isNegative && !y.isZero && !y.isNaN then .error .zeroPower
  else if x.isNegative && x.isFinite && !x.isZero && y.isFinite && !y.isIntegral then
    .error (.notSerializable "complex")
  else
    let z := x.pow y
    if z.isInfinite && x.isFinite && y.isFinite then .error .outOfRange else .ok (.float z)

def Binary.onInts (operator : Binary) (a b : Int) : Except Fault Value :=
  match operator with
  | .add => .ok (.int (a + b))
  | .sub => .ok (.int (a - b))
  | .mul => .ok (.int (a * b))
  | .div => trueQuotient a b
  | .floorDiv => if b == 0 then .error .integerQuotient else .ok (.int (a.fdiv b))
  | .rem => if b == 0 then .error .integerRemainder else .ok (.int (a.fmod b))
  | .pow =>
    if b ≥ 0 then .ok (.int (a ^ b.toNat))
    else do floatPower (← (Number.int a).toFloat) (← (Number.int b).toFloat)

def Binary.onFloats (operator : Binary) (x y : Binary64) : Except Fault Value :=
  match operator with
  | .add => .ok (.float (x.add y))
  | .sub => .ok (.float (x.sub y))
  | .mul => .ok (.float (x.mul y))
  | .div => if y.isZero then .error .floatDivision else .ok (.float (x.div y))
  | .floorDiv => if y.isZero then .error .floatQuotient else .ok (.float (x.floorDiv y))
  | .rem => if y.isZero then .error .floatRemainder else .ok (.float (x.rem y))
  | .pow => floatPower x y

def Binary.onNumbers (operator : Binary) : Number → Number → Except Fault Value
  | .int a, .int b => operator.onInts a b
  | a, b => do operator.onFloats (← a.toFloat) (← b.toFloat)

/-! ## Sequences -/

/-- The bound above which no sequence is repeated. -/
def repetitionLimit : Int := 2 ^ (63 : Nat)

/-- The greatest length of a repeated sequence. -/
def repeatedLimit : Int := 2 ^ (32 : Nat)

def repeatItems {α : Type} (items : List α) (n : Int) : Except Fault (List α) :=
  if n ≥ repetitionLimit then .error .longRepetition
  else if items.isEmpty then .ok []
  else if n * items.length > repeatedLimit then .error .noRoom
  else .ok (List.replicate n.toNat items).flatten

def repeated (sequence : Value) (n : Int) : Except Fault Value :=
  match sequence with
  | .str s => (Value.str ∘ String.ofList) <$> repeatItems s.toList n
  | .list items => Value.list <$> repeatItems items n
  | .tuple items => Value.tuple <$> repeatItems items n
  | v => .ok v

def Value.isSequence : Value → Bool
  | .str _ | .list _ | .tuple _ => true
  | _ => false

def repetitions (v : Value) : Except Fault Int :=
  match v.number? with
  | some (.int n) => .ok n
  | _ => .error (.repetition v.typeName)

/-! ## Inserting values into a text -/

/-- What a directive of a text with places puts out for a value. -/
def directive (sign : Char) (place : Nat) (v : Value) : Except Fault (List Char) :=
  match sign with
  | 's' => String.toList <$> v.shown
  | 'r' => if v.isWritable then .ok v.display.toList else .error .longInteger
  | 'd' | 'i' | 'u' =>
    match v.number? with
    | some (.int n) => if Json.isShortInt n then .ok (Json.intChars n) else .error .longInteger
    | some (.float x) => .ok (Json.intChars (x.trunc?.getD 0))
    | none => .error (.notNumber sign v.typeName)
  | c => .error (.unknownFormat c place)

/-- The text with the arguments at its places; `place` characters stand before it. -/
def filled (place : Nat) : List Char → List Value → Except Fault (List Char × List Value)
  | [], arguments => .ok ([], arguments)
  | '%' :: '%' :: rest, arguments => do
    let (s, left) ← filled (place + 2) rest arguments
    return ('%' :: s, left)
  | ['%'], _ => .error .incompleteFormat
  | '%' :: sign :: rest, arguments =>
    match arguments with
    | [] => .error .formatTooFew
    | v :: arguments => do
      let written ← directive sign (place + 1) v
      let (s, left) ← filled (place + 2) rest arguments
      return (written ++ s, left)
  | c :: rest, arguments => do
    let (s, left) ← filled (place + 1) rest arguments
    return (c :: s, left)

/-- A text with values at its places: the items of a tuple, or else a single value, which may be
left over when it has entries. -/
def insertInto (s : String) (v : Value) : Except Fault Value := do
  let arguments := match v with
    | .tuple items => items
    | v => [v]
  let (written, left) ← filled 0 s.toList arguments
  let mayStay := match v with
    | .table _ | .list _ | .missing .. => left.length == 1
    | _ => false
  if left.isEmpty || mayStay then return .str (String.ofList written) else throw .formatTooMany

/-! ## The operators -/

def Binary.text : Binary → String
  | .add => "+" | .sub => "-" | .mul => "*" | .div => "/" | .floorDiv => "//" | .rem => "%"
  | .pow => "** or pow()"

def Binary.apply (operator : Binary) (a b : Value) : Except Fault Value :=
  let refused := Except.error (.operands operator.text a.typeName b.typeName)
  match operator, a, b with
  | .rem, .str s, _ => insertInto s b
  | _, .missing _ why, _ => .error (.missing why)
  | _, _, .missing _ why => .error (.missing why)
  | .add, .str s, .str t => .ok (.str (s ++ t))
  | .add, .list xs, .list ys => .ok (.list (xs ++ ys))
  | .add, .tuple xs, .tuple ys => .ok (.tuple (xs ++ ys))
  | _, _, _ =>
    match a.number?, b.number? with
    | some m, some n => operator.onNumbers m n
    | _, _ =>
      match operator with
      | .add => if a.isSequence then .error (.concatenation a.typeName b.typeName) else refused
      | .mul =>
        if a.isSequence then do repeated a (← repetitions b)
        else if b.isSequence then do repeated b (← repetitions a)
        else refused
      | _ => refused

def Unary.apply (operator : Unary) (v : Value) : Except Fault Value :=
  match v with
  | .missing _ why => .error (.missing why)
  | v =>
    match operator, v.number? with
    | .negate, some (.int n) => .ok (.int (-n))
    | .negate, some (.float x) => .ok (.float x.neg)
    | .plus, some n => .ok n.value
    | .negate, none => .error (.operand "-" v.typeName)
    | .plus, none => .error (.operand "+" v.typeName)

/-! ## Comparisons -/

def Comparison.text : Comparison → String
  | .equal => "==" | .differ => "!=" | .less => "<" | .atMost => "<=" | .greater => ">"
  | .atLeast => ">=" | .isIn => "in" | .notIn => "not in"

def Comparison.accepts (comparison : Comparison) (o : Ordering) : Bool :=
  match comparison with
  | .less => o == .lt
  | .atMost => o != .gt
  | .greater => o == .gt
  | .atLeast => o != .lt
  | .equal => o == .eq
  | .differ => o != .eq
  | .isIn | .notIn => false

/-- How two numbers lie to each other; a NaN has no answer. -/
def Number.compare? : Number → Number → Option Ordering
  | .int a, .int b => some (compare a b)
  | .float x, .int b => x.compareInt? b
  | .int a, .float y => (y.compareInt? a).map Ordering.swap
  | .float x, .float y => if x.isNaN || y.isNaN then none else some (compare x.rank y.rank)

mutual

/-- Whether the order of two values is the one asked for. -/
def ordered (comparison : Comparison) : Value → Value → Except Fault Bool
  | .missing _ why, _ => .error (.missing why)
  | .list xs, .list ys => orderedItems comparison xs ys
  | .tuple xs, .tuple ys => orderedItems comparison xs ys
  | .str s, .str t => .ok (comparison.accepts (compare s t))
  | a, b =>
    match b with
    | .missing _ why => .error (.missing why)
    | b =>
      match a.number?, b.number? with
      | some m, some n =>
        .ok (match m.compare? n with
          | some o => comparison.accepts o
          | none => false)
      | _, _ => .error (.order comparison.text a.typeName b.typeName)

/-- The first items that differ decide, and else the lengths. -/
def orderedItems (comparison : Comparison) : List Value → List Value → Except Fault Bool
  | x :: xs, y :: ys => if x.equiv y then orderedItems comparison xs ys else ordered comparison x y
  | [], ys => .ok (comparison.accepts (compare 0 ys.length))
  | xs, [] => .ok (comparison.accepts (compare xs.length 0))

end

def member (v : Value) : Value → Except Fault Bool
  | .str t =>
    match v with
    | .str s => .ok (Text.contains t s)
    | v => .error (.notText v.typeName)
  | .table entries =>
    match v.unhashable? with
    | some kind => .error (.unhashable kind)
    | none => .ok (Value.valueAt? entries v).isSome
  | container =>
    match container.items with
    | .ok items => .ok (items.any fun w => w.equiv v)
    | .error _ => .error (.notContainer container.typeName)

def Comparison.holds (comparison : Comparison) (a b : Value) : Except Fault Bool :=
  match comparison with
  | .equal => .ok (a.equiv b)
  | .differ => .ok (!a.equiv b)
  | .isIn => member a b
  | .notIn => do return !(← member a b)
  | comparison => ordered comparison a b

end FlexForm.Grammar
