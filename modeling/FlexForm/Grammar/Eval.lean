import FlexForm.Grammar.Callable

/-! # Evaluation of expressions

The value of an expression, given the values of names.

* `Expr.eval`: the value, or the first fault.
* `Expr.constant?`: the value of an expression in which no name matters.
-/

namespace FlexForm.Grammar
set_option autoImplicit false

def Arguments.add (given : Arguments) (passing : Passing) (v : Value) : Except Fault Arguments :=
  match passing with
  | .plain => .ok { given with plain := given.plain ++ [v] }
  | .named key => .ok { given with named := given.named ++ [(key, v)] }
  | .spread => do return { given with plain := given.plain ++ (← v.items) }
  | .spreadNamed =>
    match v with
    | .table entries =>
      .ok { given with named := given.named ++ entries.filterMap fun e =>
        match e.1 with
        | .str key => some (key, e.2)
        | _ => none }
    | v => .error (.notMapping v.typeName)

/-- The table with the given entries, whose keys have to be fit for it. -/
def tableValue (entries : List (Value × Value)) : Except Fault Value :=
  match entries.findSome? fun e => e.1.unhashable? with
  | some kind => .error (.unhashable kind)
  | none => .ok (.table (Value.tableOf entries))

mutual

def Expr.eval (names : String → Except Fault Value) : Expr → Except Fault Value
  | .const v => .ok v
  | .faulty fault => .error fault
  | .name s => names s
  | .list items => Value.list <$> evalAll names items
  | .tuple items => Value.tuple <$> evalAll names items
  | .table entries => do tableValue (← evalEntries names entries)
  | .attribute owner name => do (← owner.eval names).attribute name
  | .item owner key => do
    let v ← owner.eval names
    v.item (← key.eval names)
  | .slice owner first last step => do
    let v ← owner.eval names
    let first ← evalOption names first
    let last ← evalOption names last
    v.slice first last (← evalOption names step)
  | .call callee arguments => do
    let f ← callee.eval names
    f.call (← evalArguments names ⟨[], []⟩ arguments)
  | .filter subject name arguments _ => do
    let v ← subject.eval names
    let given ← evalArguments names ⟨[v], []⟩ arguments
    match Filter.ofName? name with
    | some f => f.call given
    | none => throw (.unknownFilter name)
  | .test subject name arguments _ => do
    let v ← subject.eval names
    let given ← evalArguments names ⟨[v], []⟩ arguments
    match Test.ofName? name with
    | some t => t.call given
    | none => throw (.unknownTest name)
  | .unary operator operand => do operator.apply (← operand.eval names)
  | .binary operator left right => do
    let a ← left.eval names
    operator.apply a (← right.eval names)
  | .concat parts => do
    let values ← evalAll names parts
    return .str (String.join (← values.mapM Value.shown))
  | .compare first others => do
    let v ← first.eval names
    Value.bool <$> evalChain names v others
  | .not operand => do return .bool !(← operand.eval names).isTruthy
  | .both left right => do
    let v ← left.eval names
    if v.isTruthy then right.eval names else return v
  | .either left right => do
    let v ← left.eval names
    if v.isTruthy then return v else right.eval names
  | .choice condition consequence alternative line => do
    let v ← condition.eval names
    if v.isTruthy then consequence.eval names
    else
      match alternative with
      | some e => e.eval names
      | none =>
        return .missing true (.hint
          (s!"the inline if-expression on line {line} evaluated to false and no else "
            ++ "section was defined."))

def evalAll (names : String → Except Fault Value) : List Expr → Except Fault (List Value)
  | [] => .ok []
  | e :: rest => do
    let v ← e.eval names
    return v :: (← evalAll names rest)

def evalOption (names : String → Except Fault Value) : Option Expr → Except Fault (Option Value)
  | none => .ok none
  | some e => some <$> e.eval names

def evalEntries (names : String → Except Fault Value) :
    List (Expr × Expr) → Except Fault (List (Value × Value))
  | [] => .ok []
  | (key, e) :: rest => do
    let k ← key.eval names
    let v ← e.eval names
    return (k, v) :: (← evalEntries names rest)

def evalArguments (names : String → Except Fault Value) (given : Arguments) :
    List (Passing × Expr) → Except Fault Arguments
  | [] => .ok given
  | (passing, e) :: rest => do
    let v ← e.eval names
    evalArguments names (← given.add passing v) rest

/-- Whether every comparison of the chain holds; the first that does not ends it. -/
def evalChain (names : String → Except Fault Value) (v : Value) :
    List (Comparison × Expr) → Except Fault Bool
  | [] => .ok true
  | (comparison, e) :: rest => do
    let w ← e.eval names
    if ← comparison.holds v w then evalChain names w rest else return false

end

/-! ## Constants -/

mutual

def Value.isLiteral : Value → Bool
  | .null | .bool _ | .int _ | .float _ | .str _ => true
  | .list items | .tuple items => areLiterals items
  | .table entries => areLiteralEntries entries
  | _ => false

def Value.areLiterals : List Value → Bool
  | [] => true
  | v :: rest => v.isLiteral && areLiterals rest

def Value.areLiteralEntries : List (Value × Value) → Bool
  | [] => true
  | (k, v) :: rest => k.isLiteral && v.isLiteral && areLiteralEntries rest

end

mutual

/-- The word for the first number inside that is not finite. -/
def Value.strangeNumber? : Value → Option String
  | .float x => if x.isFinite then none else some (if x.isNaN then "nan" else "inf")
  | .list items | .tuple items => strangeAmong items
  | .table entries => strangeAmongEntries entries
  | _ => none

def Value.strangeAmong : List Value → Option String
  | [] => none
  | v :: rest => v.strangeNumber?.or (strangeAmong rest)

def Value.strangeAmongEntries : List (Value × Value) → Option String
  | [] => none
  | (k, v) :: rest => (k.strangeNumber?.or v.strangeNumber?).or (strangeAmongEntries rest)

end

/-- The value of an expression that no name is needed for. -/
def Expr.constant? (e : Expr) : Option Value :=
  match e.eval fun name => .error (.unknownConstant name) with
  | .ok v => if v.isLiteral then some v else none
  | .error _ => none

end FlexForm.Grammar
