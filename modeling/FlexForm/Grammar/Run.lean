import FlexForm.Grammar.Prepare
import FlexForm.Grammar.Reader

/-! # Running template texts

Statements put out text and bind names. A loop runs its body once for each item, and what a round
binds is forgotten after it. A body that binds a name before it reads that name does not see, until
then, what the form data says under that name.

* `Scope`: what names stand for.
* `Statement.run`: what a statement puts out, and the names afterwards.
* `render`: what a text puts out for form data.
-/

namespace FlexForm.Grammar
set_option autoImplicit false

/-! ## Names -/

/-- The names bound so far, the latest first; some have no value yet. -/
abbrev Bound := List (String × Option Value)

/-- What a name stands for outside of all bindings: a helper, or a value of the form data. -/
def outsideValue? (data : List (Value × Value)) (name : String) : Option Value :=
  match Helper.ofName? name with
  | some h => some (.helper h)
  | none => Value.valueAt? data (.str name)

def Bound.has (bound : Bound) (name : String) : Bool := bound.any fun b => b.1 == name

def nameValue (data : List (Value × Value)) (bound : Bound) (name : String) :
    Except Fault Value :=
  let found := match bound.find? fun b => b.1 == name with
    | some (_, v) => v
    | none => outsideValue? data name
  .ok (found.getD (.missing false (.name name)))

mutual

def Expr.reads : Expr → List String
  | .const _ | .faulty _ => []
  | .name s => [s]
  | .list items | .tuple items | .concat items => readsAll items
  | .table entries => readsEntries entries
  | .attribute owner _ => owner.reads
  | .item owner key => owner.reads ++ key.reads
  | .slice owner first last step =>
    owner.reads ++ readsOption first ++ readsOption last ++ readsOption step
  | .call callee arguments => callee.reads ++ readsArguments arguments
  | .filter subject _ arguments _ | .test subject _ arguments _ =>
    subject.reads ++ readsArguments arguments
  | .unary _ operand | .not operand => operand.reads
  | .binary _ left right | .both left right | .either left right => left.reads ++ right.reads
  | .compare first others => first.reads ++ readsChain others
  | .choice condition consequence alternative _ =>
    condition.reads ++ consequence.reads ++ readsOption alternative

def readsAll : List Expr → List String
  | [] => []
  | e :: rest => e.reads ++ readsAll rest

def readsOption : Option Expr → List String
  | none => []
  | some e => e.reads

def readsEntries : List (Expr × Expr) → List String
  | [] => []
  | (key, e) :: rest => key.reads ++ e.reads ++ readsEntries rest

def readsArguments : List (Passing × Expr) → List String
  | [] => []
  | (_, e) :: rest => e.reads ++ readsArguments rest

def readsChain : List (Comparison × Expr) → List String
  | [] => []
  | (_, e) :: rest => e.reads ++ readsChain rest

end

mutual

def Target.names : Target → List String
  | .name s _ => [s]
  | .tuple parts => namesOf parts
  | .member .. => []

def Target.namesOf : List Target → List String
  | [] => []
  | t :: rest => t.names ++ namesOf rest

end

/-- A name that a body mentions, and whether it is bound there before it is read. -/
structure Mention where
  name : String
  binds : Bool

def reading (names : List String) : List Mention := names.map (⟨·, false⟩)

mutual

/-- The names that a statement mentions outside of the bodies of loops. What only some branch binds
counts as read. -/
def Statement.mentions : Statement → List Mention
  | .words _ => []
  | .print e => reading e.reads
  | .set target e => reading e.reads ++ target.names.map (⟨·, true⟩)
  | .capture target _ => target.names.map (⟨·, true⟩)
  | .choose branches otherwise =>
    (mentionsBranches branches ++ mentionsAll otherwise).map fun m => ⟨m.name, false⟩
  | .each _ source _ _ _ => reading source.reads

def Statement.mentionsAll : List Statement → List Mention
  | [] => []
  | s :: rest => s.mentions ++ mentionsAll rest

def Statement.mentionsBranches : List (Expr × List Statement) → List Mention
  | [] => []
  | (condition, body) :: rest =>
    reading condition.reads ++ mentionsAll body ++ mentionsBranches rest

end

/-- The names on entering a body: those that it mentions are bound, without a value if it binds them
first. -/
def entering (data : List (Value × Value)) (body : List Statement) (bound : Bound) : Bound :=
  (Statement.mentionsAll body).foldl (fun bound m =>
    if bound.has m.name then bound
    else (m.name, if m.binds then none else outsideValue? data m.name) :: bound) bound

mutual

/-- Binds a value, or its parts, to a target. -/
def Target.bind (bound : Bound) : Target → Value → Except Fault Bound
  | .name s _, v => .ok ((s, some v) :: bound)
  | .tuple parts, v =>
    match v.items with
    | .error _ => .error (.notUnpackable v.typeName)
    | .ok items =>
      if items.length < parts.length then .error (.tooFewItems parts.length items.length)
      else if parts.length < items.length then .error (.tooManyItems parts.length)
      else bindParts bound parts items
  | .member .., _ => .error .notNamespace

def Target.bindParts (bound : Bound) : List Target → List Value → Except Fault Bound
  | t :: rest, v :: more => do bindParts (← t.bind bound v) rest more
  | _, _ => .ok bound

end

/-! ## Loops -/

/-- The items that meet a condition, up to the first fault. -/
def meeting (condition : Value → Except Fault Bool) : List Value → List Value × Option Fault
  | [] => ([], none)
  | v :: rest =>
    match condition v with
    | .error fault => ([], some fault)
    | .ok holds =>
      let (more, fault) := meeting condition rest
      (if holds then v :: more else more, fault)

def rounds (round : Nat → Option Value → Value → List Value → Except Fault String) (index : Nat)
    (previous : Option Value) : List Value → Except Fault String
  | [] => .ok ""
  | v :: rest => do
    let first ← round index previous v rest
    return first ++ (← rounds round (index + 1) (some v) rest)

/-! ## Statements -/

mutual

/-- What a statement puts out, and the names afterwards. -/
def Statement.run (data : List (Value × Value)) (bound : Bound) :
    Statement → Except Fault (String × Bound)
  | .words cs => .ok (String.ofList cs, bound)
  | .print e => do
    let v ← e.eval (nameValue data bound)
    return (← v.shown, bound)
  | .set target e => do
    let v ← e.eval (nameValue data bound)
    return ("", ← target.bind bound v)
  | .capture target body => do
    let (s, _) ← runAll data (entering data body bound) body
    return ("", ← target.bind bound (.str s))
  | .choose branches otherwise => do
    match ← runBranches data bound branches with
    | some result => return result
    | none => runAll data bound otherwise
  | .each target source condition body otherwise => do
    let v ← source.eval (nameValue data bound)
    let items ← v.items
    let holds (v : Value) : Except Fault Bool :=
      match condition with
      | none => .ok true
      | some e => do
        let inside ← target.bind bound v
        return (← e.eval (nameValue data inside)).isTruthy
    let (items, fault) := meeting holds items
    let out ← rounds (fun index previous v following => do
      let here := ("loop", some (.loop index previous v following fault)) :: bound
      let inside ← target.bind here v
      let (s, _) ← runAll data (entering data body inside) body
      return s) 0 none items
    match fault with
    | some fault => throw fault
    | none =>
      if items.isEmpty then
        let (s, _) ← runAll data (entering data otherwise bound) otherwise
        return (s, bound)
      else return (out, bound)

def Statement.runAll (data : List (Value × Value)) (bound : Bound) :
    List Statement → Except Fault (String × Bound)
  | [] => .ok ("", bound)
  | s :: rest => do
    let (first, bound) ← s.run data bound
    let (more, bound) ← runAll data bound rest
    return (first ++ more, bound)

/-- What the first branch whose condition holds puts out, if there is one. -/
def Statement.runBranches (data : List (Value × Value)) (bound : Bound) :
    List (Expr × List Statement) → Except Fault (Option (String × Bound))
  | [] => .ok none
  | (condition, body) :: rest => do
    let v ← condition.eval (nameValue data bound)
    if v.isTruthy then some <$> runAll data bound body else runBranches data bound rest

end

/-! ## Whole texts -/

def compile (text : String) : Except Refusal (List Statement) := do
  Statement.prepareBody false (← read text)

def output (body : List Statement) (data : List (String × Json)) : Except Fault String := do
  let data := Value.ofFields data
  let (s, _) ← Statement.runAll data (entering data body []) body
  return s

end FlexForm.Grammar
