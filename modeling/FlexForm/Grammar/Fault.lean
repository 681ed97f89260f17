import FlexForm.Text.Quoted

/-! # Faults of evaluation

What can go wrong when a template text is evaluated. Values appear by the names of their kinds.

* `Absence`, `Absence.message`: how a value came to be missing.
* `Fault`, `Fault.message`: the faults.
-/

namespace FlexForm.Grammar
set_option autoImplicit false

/-- How a value came to be missing. -/
inductive Absence where
  | name (name : String)
  | attribute (owner name : String)
  | element (owner key : String)
  | hint (words : String)
  deriving DecidableEq, Inhabited

def Absence.message : Absence → String
  | .name word => s!"{Text.quoted word} is undefined"
  | .attribute owner word => s!"{Text.quoted owner} has no attribute {Text.quoted word}"
  | .element owner key => s!"{owner} has no element {key}"
  | .hint words => words

inductive Fault where
  | missing (absence : Absence)
  | operands (operator left right : String)
  | concatenation (left right : String)
  | repetition (right : String)
  | longRepetition
  /-- A repeated sequence is too long to be kept. -/
  | noRoom
  | operand (operator kind : String)
  | order (operator left right : String)
  | notIterable (kind : String)
  | notReversible (kind : String)
  | notSized (kind : String)
  | notCallable (kind : String)
  | notSubscriptable (kind : String)
  | notContainer (kind : String)
  | notText (kind : String)
  | unhashable (kind : String)
  | tooFewItems (wanted got : Nat)
  | tooManyItems (wanted : Nat)
  | notUnpackable (kind : String)
  | division
  | floatDivision
  | integerQuotient
  | integerRemainder
  | floatQuotient
  | floatRemainder
  | zeroPower
  | largeInteger
  | largeQuotient
  | outOfRange
  | longInteger
  | notSerializable (kind : String)
  | badKey (kind : String)
  | argumentsMissing (callable : String) (names : List String)
  | argumentsLeft (callable : String) (least most given : Nat)
  | oneArgument (callable : String) (given : Nat)
  | noArguments (callable : String) (given : Nat)
  | noNames (callable : String)
  | unknownArgument (callable name : String)
  | repeatedArgument (callable name : String)
  | zeroStep
  | sliceBound
  | notIndex (kind : String)
  | badStrip
  | formatTooFew
  | formatTooMany
  | notNumber (sign : Char) (kind : String)
  | incompleteFormat
  | unknownFormat (sign : Char) (place : Nat)
  | unknownFilter (name : String)
  | unknownTest (name : String)
  | unknownConstant (name : String)
  | notNamespace
  | notMapping (kind : String)
  deriving DecidableEq, Inhabited

/-- The names in quotes, with commas and an `and` before the last one. -/
def Fault.enumeration : List String → String
  | [] => ""
  | [a] => Text.quoted a
  | [a, b] => s!"{Text.quoted a} and {Text.quoted b}"
  | names =>
    ", ".intercalate (names.dropLast.map Text.quoted) ++ ", and "
      ++ Text.quoted (names.getLast?.getD "")

def Fault.message : Fault → String
  | .missing absence => absence.message
  | .operands operator left right =>
    s!"unsupported operand type(s) for {operator}: '{left}' and '{right}'"
  | .concatenation left right => s!"can only concatenate {left} (not \"{right}\") to {left}"
  | .repetition right => s!"can't multiply sequence by non-int of type '{right}'"
  | .longRepetition => "cannot fit 'int' into an index-sized integer"
  | .noRoom => ""
  | .operand operator kind => s!"bad operand type for unary {operator}: '{kind}'"
  | .order operator left right =>
    s!"'{operator}' not supported between instances of '{left}' and '{right}'"
  | .notIterable kind => s!"'{kind}' object is not iterable"
  | .notReversible kind => s!"'{kind}' object is not reversible"
  | .notSized kind => s!"object of type '{kind}' has no len()"
  | .notCallable kind => s!"'{kind}' object is not callable"
  | .notSubscriptable kind => s!"'{kind}' object is not subscriptable"
  | .notContainer kind => s!"argument of type '{kind}' is not iterable"
  | .notText kind => s!"'in <string>' requires string as left operand, not {kind}"
  | .unhashable kind => s!"unhashable type: '{kind}'"
  | .tooFewItems wanted got => s!"not enough values to unpack (expected {wanted}, got {got})"
  | .tooManyItems wanted => s!"too many values to unpack (expected {wanted})"
  | .notUnpackable kind => s!"cannot unpack non-iterable {kind} object"
  | .division => "division by zero"
  | .floatDivision => "float division by zero"
  | .integerQuotient => "integer division or modulo by zero"
  | .integerRemainder => "integer modulo by zero"
  | .floatQuotient => "float floor division by zero"
  | .floatRemainder => "float modulo"
  | .zeroPower => "0.0 cannot be raised to a negative power"
  | .largeInteger => "int too large to convert to float"
  | .largeQuotient => "integer division result too large for a float"
  | .outOfRange => "(34, 'Numerical result out of range')"
  | .longInteger =>
    "Exceeds the limit (4300 digits) for integer string conversion; "
      ++ "use sys.set_int_max_str_digits() to increase the limit"
  | .notSerializable kind => s!"Object of type {kind} is not JSON serializable"
  | .badKey kind => s!"keys must be str, int, float, bool or None, not {kind}"
  | .argumentsMissing callable names =>
    let plural := if names.length == 1 then "" else "s"
    s!"{callable}() missing {names.length} required positional argument{plural}: "
      ++ enumeration names
  | .argumentsLeft callable least most given =>
    let limits := if least == most then s!"{most}" else s!"from {least} to {most}"
    let plural := if least == most && most == 1 then "" else "s"
    let verb := if given == 1 then "was" else "were"
    s!"{callable}() takes {limits} positional argument{plural} but {given} {verb} given"
  | .oneArgument callable given =>
    s!"{callable}() takes exactly one argument ({given} given)"
  | .noArguments callable given => s!"{callable}() takes no arguments ({given} given)"
  | .noNames callable => s!"{callable}() takes no keyword arguments"
  | .unknownArgument callable name =>
    s!"{callable}() got an unexpected keyword argument {Text.quoted name}"
  | .repeatedArgument callable name =>
    s!"{callable}() got multiple values for argument {Text.quoted name}"
  | .zeroStep => "slice step cannot be zero"
  | .sliceBound =>
    "slice indices must be integers or None or have an __index__ method"
  | .notIndex kind => s!"'{kind}' object cannot be interpreted as an integer"
  | .badStrip => "strip arg must be None or str"
  | .formatTooFew => "not enough arguments for format string"
  | .formatTooMany => "not all arguments converted during string formatting"
  | .notNumber sign kind => s!"%{sign} format: a real number is required, not {kind}"
  | .incompleteFormat => "incomplete format"
  | .unknownFormat sign place =>
    let code := String.ofList ((Nat.toDigits 16 sign.toNat))
    s!"unsupported format character '{sign}' (0x{code}) at index {place}"
  | .unknownFilter name => s!"No filter named {Text.quoted name} found."
  | .unknownTest name => s!"No test named {Text.quoted name} found."
  | .unknownConstant name => s!"name '{name}' is not defined"
  | .notNamespace => "cannot assign attribute on non-namespace object"
  | .notMapping kind => s!"'{kind}' object is not a mapping"

end FlexForm.Grammar
