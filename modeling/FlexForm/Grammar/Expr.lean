import FlexForm.Grammar.Value

/-! # Expressions and statements

What a template text says once it is read.

* `Expr`, `Argument`: expressions, and the arguments of calls.
* `Target`: what a value is bound to.
* `Statement`: the parts of a template text.
-/

namespace FlexForm.Grammar
set_option autoImplicit false

inductive Unary where
  | negate | plus
  deriving DecidableEq, Inhabited

inductive Binary where
  | add | sub | mul | div | floorDiv | rem | pow
  deriving DecidableEq, Inhabited

inductive Comparison where
  | equal | differ | less | atMost | greater | atLeast | isIn | notIn
  deriving DecidableEq, Inhabited

inductive Passing where
  | plain
  | named (name : String)
  | spread
  | spreadNamed
  deriving DecidableEq, Inhabited

inductive Expr where
  | const (v : Value)
  /-- A number that no text writes, and so fails when it is used. -/
  | faulty (fault : Fault)
  | name (name : String)
  | list (items : List Expr)
  | tuple (items : List Expr)
  | table (entries : List (Expr × Expr))
  | attribute (owner : Expr) (name : String)
  | item (owner key : Expr)
  | slice (owner : Expr) (first last step : Option Expr)
  | call (callee : Expr) (arguments : List (Passing × Expr))
  | filter (subject : Expr) (name : String) (arguments : List (Passing × Expr)) (line : Nat)
  | test (subject : Expr) (name : String) (arguments : List (Passing × Expr)) (line : Nat)
  | unary (operator : Unary) (operand : Expr)
  | binary (operator : Binary) (left right : Expr)
  | concat (parts : List Expr)
  | compare (first : Expr) (others : List (Comparison × Expr))
  | not (operand : Expr)
  | both (left right : Expr)
  | either (left right : Expr)
  /-- `consequence if condition else alternative`, begun on the given line. -/
  | choice (condition consequence : Expr) (alternative : Option Expr) (line : Nat)
  deriving Inhabited

def Expr.kind : Expr → String
  | .const _ | .faulty _ => "const"
  | .name _ => "name"
  | .list _ => "list"
  | .tuple _ => "tuple"
  | .table _ => "dict"
  | .attribute .. => "getattr"
  | .item .. | .slice .. => "getitem"
  | .call .. => "call"
  | .filter .. => "filter"
  | .test .. => "test"
  | .unary .negate _ => "neg"
  | .unary .plus _ => "pos"
  | .binary .add .. => "add"
  | .binary .sub .. => "sub"
  | .binary .mul .. => "mul"
  | .binary .div .. => "div"
  | .binary .floorDiv .. => "floordiv"
  | .binary .rem .. => "mod"
  | .binary .pow .. => "pow"
  | .concat _ => "concat"
  | .compare .. => "compare"
  | .not _ => "not"
  | .both .. => "and"
  | .either .. => "or"
  | .choice .. => "condexpr"

/-- What a value is bound to: a name, the parts of a tuple, or an attribute of a name, to which
nothing can be bound. -/
inductive Target where
  | name (name : String) (line : Nat)
  | tuple (parts : List Target)
  | member (owner name : String)
  deriving Inhabited

mutual

/-- The target that an expression on the given line is, or else the kind of expression that is
none. -/
def Target.ofExpr (line : Nat) : Expr → Except String Target
  | .name s => .ok (.name s line)
  | .tuple parts =>
    match ofExprs line parts with
    | some parts => .ok (.tuple parts)
    | none => .error "tuple"
  | e => .error e.kind

def Target.ofExprs (line : Nat) : List Expr → Option (List Target)
  | [] => some []
  | e :: rest =>
    match Target.ofExpr line e, ofExprs line rest with
    | .ok t, some ts => some (t :: ts)
    | _, _ => none

end

inductive Statement where
  | words (cs : List Char)
  | print (e : Expr)
  | set (target : Target) (value : Expr)
  /-- Binds what the body puts out. -/
  | capture (target : Target) (body : List Statement)
  | choose (branches : List (Expr × List Statement)) (otherwise : List Statement)
  | each (target : Target) (source : Expr) (condition : Option Expr)
      (body otherwise : List Statement)
  deriving Inhabited

end FlexForm.Grammar
