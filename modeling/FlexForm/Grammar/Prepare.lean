import FlexForm.Grammar.Eval
import FlexForm.Grammar.Token

/-! # Preparation of statements

Before a text is run, expressions without names are replaced by their values, and the names of
filters and tests are looked up. Inside conditions an unknown filter or test is let through, as it
may never be asked for.

* `Expr.prepare`, `Statement.prepare`: the prepared form, or why there is none.
-/

namespace FlexForm.Grammar
set_option autoImplicit false

/-- A literal in the place of an expression without names. -/
def literal (v : Value) : Except Refusal Expr :=
  if !v.isWritable then .error .longConstant
  else
    match v.strangeNumber? with
    | some word => .ok (.faulty (.unknownConstant word))
    | none => .ok (.const v)

/-- Refuses an unknown filter or test, except inside conditions. -/
def known (lenient found : Bool) (line : Nat) (cause : Cause) : Except Refusal Unit :=
  if found || lenient then .ok () else .error (.grammar line cause)

mutual

/-- The expression with literals in the place of what needs no names. -/
def Expr.prepare (lenient : Bool) (e : Expr) : Except Refusal Expr :=
  match e.constant? with
  | some v => literal v
  | none =>
    match e with
    | .const v => .ok (.const v)
    | .faulty fault => .ok (.faulty fault)
    | .name s => .ok (.name s)
    | .list items => Expr.list <$> prepareAll lenient items
    | .tuple items => Expr.tuple <$> prepareAll lenient items
    | .table entries => Expr.table <$> prepareEntries lenient entries
    | .attribute owner name => do return .attribute (← owner.prepare lenient) name
    | .item owner key => do return .item (← owner.prepare lenient) (← key.prepare lenient)
    | .slice owner first last step => do
      return .slice (← owner.prepare lenient) (← prepareOption lenient first)
        (← prepareOption lenient last) (← prepareOption lenient step)
    | .call callee arguments => do
      return .call (← callee.prepare lenient) (← prepareArguments lenient arguments)
    | .filter subject name arguments line => do
      known lenient (Filter.ofName? name).isSome line (.unknownFilter name)
      return .filter (← subject.prepare lenient) name (← prepareArguments lenient arguments) line
    | .test subject name arguments line => do
      known lenient (Test.ofName? name).isSome line (.unknownTest name)
      return .test (← subject.prepare lenient) name (← prepareArguments lenient arguments) line
    | .unary operator operand => do return .unary operator (← operand.prepare lenient)
    | .binary operator left right => do
      return .binary operator (← left.prepare lenient) (← right.prepare lenient)
    | .concat parts => Expr.concat <$> prepareAll lenient parts
    | .compare first others => do
      return .compare (← first.prepare lenient) (← prepareChain lenient others)
    | .not operand => Expr.not <$> operand.prepare lenient
    | .both left right => do return .both (← left.prepare lenient) (← right.prepare lenient)
    | .either left right => do return .either (← left.prepare lenient) (← right.prepare lenient)
    | .choice condition consequence alternative line => do
      let consequence ← consequence.prepare true
      let condition ← condition.prepare true
      return .choice condition consequence (← prepareOption true alternative) line

def prepareAll (lenient : Bool) : List Expr → Except Refusal (List Expr)
  | [] => .ok []
  | e :: rest => do
    let e ← e.prepare lenient
    return e :: (← prepareAll lenient rest)

def prepareOption (lenient : Bool) : Option Expr → Except Refusal (Option Expr)
  | none => .ok none
  | some e => some <$> e.prepare lenient

def prepareEntries (lenient : Bool) : List (Expr × Expr) → Except Refusal (List (Expr × Expr))
  | [] => .ok []
  | (key, e) :: rest => do
    let key ← key.prepare lenient
    let e ← e.prepare lenient
    return (key, e) :: (← prepareEntries lenient rest)

def prepareArguments (lenient : Bool) :
    List (Passing × Expr) → Except Refusal (List (Passing × Expr))
  | [] => .ok []
  | (passing, e) :: rest => do
    let e ← e.prepare lenient
    return (passing, e) :: (← prepareArguments lenient rest)

def prepareChain (lenient : Bool) :
    List (Comparison × Expr) → Except Refusal (List (Comparison × Expr))
  | [] => .ok []
  | (comparison, e) :: rest => do
    let e ← e.prepare lenient
    return (comparison, e) :: (← prepareChain lenient rest)

end

/-! ## Statements -/

mutual

/-- The line of the first place where the name `loop` is bound. -/
def Target.loopLine? : Target → Option Nat
  | .name s line => if s == "loop" then some line else none
  | .tuple parts => partsLoopLine parts
  | .member .. => none

def Target.partsLoopLine : List Target → Option Nat
  | [] => none
  | t :: rest => t.loopLine?.or (partsLoopLine rest)

end

mutual

/-- The line of the first statement inside that binds the name `loop`. -/
def Statement.loopLine? : Statement → Option Nat
  | .words _ | .print _ => none
  | .set target _ => target.loopLine?
  | .capture target body => target.loopLine?.or (bodyLoopLine body)
  | .choose branches otherwise => (branchLoopLine branches).or (bodyLoopLine otherwise)
  | .each target _ _ body otherwise =>
    (target.loopLine?.or (bodyLoopLine body)).or (bodyLoopLine otherwise)

def Statement.bodyLoopLine : List Statement → Option Nat
  | [] => none
  | s :: rest => s.loopLine?.or (bodyLoopLine rest)

def Statement.branchLoopLine : List (Expr × List Statement) → Option Nat
  | [] => none
  | (_, body) :: rest => (bodyLoopLine body).or (branchLoopLine rest)

end

/-- The expression of a print, of which a literal may be any. -/
def preparePrint (lenient : Bool) (e : Expr) : Except Refusal Expr :=
  match e.constant? with
  | some v => if v.isWritable then .ok (.const v) else .error .longConstant
  | none => e.prepare lenient

mutual

def Statement.prepare (lenient : Bool) : Statement → Except Refusal Statement
  | .words cs => .ok (.words cs)
  | .print e => Statement.print <$> preparePrint lenient e
  | .set target e => Statement.set target <$> e.prepare lenient
  | .capture target body => Statement.capture target <$> prepareBody false body
  | .choose branches otherwise => do
    let branches ← prepareBranches branches
    return .choose branches (← prepareBody true otherwise)
  | .each target source condition body otherwise => do
    let condition ← prepareOption false condition
    match (Statement.each target source none body otherwise).loopLine? with
    | some line => throw (.grammar line .loopAssigned)
    | none => pure ()
    let source ← source.prepare lenient
    let body ← prepareBody false body
    return .each target source condition body (← prepareBody false otherwise)

def Statement.prepareBody (lenient : Bool) : List Statement → Except Refusal (List Statement)
  | [] => .ok []
  | s :: rest => do
    let s ← s.prepare lenient
    return s :: (← prepareBody lenient rest)

def Statement.prepareBranches :
    List (Expr × List Statement) → Except Refusal (List (Expr × List Statement))
  | [] => .ok []
  | (condition, body) :: rest => do
    let condition ← condition.prepare true
    let body ← prepareBody true body
    return (condition, body) :: (← prepareBranches rest)

end

end FlexForm.Grammar
