import FlexForm.Grammar.Expr
import FlexForm.Grammar.Scan

/-! # From tokens to statements

Each level of the grammar is read by a function that is given the reader of a whole expression, or
of a whole body, for what stands inside brackets and blocks. Every level inside has been opened by a
token, so the number of tokens bounds the depth.

* `Reading`: a computation that consumes tokens or refuses the text.
* `expression`: a whole expression.
* `statements`: the statements up to a tag that ends them.
* `read`: the statements of a text.
-/

namespace FlexForm.Grammar
set_option autoImplicit false

/-! ## Consuming tokens -/

/-- A computation on the tokens that are left; the last of them is never consumed. -/
abbrev Reading (α : Type) := StateT (List Placed) (Except Refusal) α

namespace Reading

def fail {α : Type} (line : Nat) (cause : Cause) : Reading α := throw (.grammar line cause)

def current : Reading Placed := do
  let tokens ← get
  return tokens.headD ⟨.finish, 1⟩

/-- Makes sure that a token is not a fault. -/
def sound (p : Placed) : Reading Unit :=
  match p.token with
  | .fault why => throw why
  | _ => pure ()

def advance : Reading Unit := do
  match ← get with
  | _ :: next :: rest => do
    sound next
    set (next :: rest)
  | _ => pure ()

def upcoming : Reading Placed := do
  match ← get with
  | _ :: next :: _ => do
    sound next
    return next
  | _ => current

def skipIf (token : Token) : Reading Bool := do
  let here ← current
  if here.token == token then
    advance
    return true
  else return false

/-- Goes on behind a token that has to be there. -/
def expect (token : Token) : Reading Unit := do
  let here ← current
  if here.token == token then advance
  else if here.token == .finish then fail here.line (.endedBefore token.description)
  else fail here.line (.expected token.description here.token.description)

/-- Goes on behind a name, which is returned. -/
def expectName : Reading String := do
  let here ← current
  match here.token with
  | .name s => do
    advance
    return s
  | .finish => fail here.line (.endedBefore "name")
  | token => fail here.line (.expected "name" token.description)

def repeatStep {α : Type} (step : α → Reading (Option α)) : Nat → α → Reading α
  | 0, a => pure a
  | n + 1, a => do
    match ← step a with
    | none => pure a
    | some b => repeatStep step n b

/-- Repeats a step that consumes tokens until it has nothing more to add. -/
def whileSome {α : Type} (step : α → Reading (Option α)) (a : α) : Reading α := do
  repeatStep step ((← get).length + 1) a

end Reading

open Reading

/-! ## Tuples -/

/-- The tokens before which a tuple ends. -/
def endsTuple : Token → Bool
  | .closePrint | .closeTag | .sign .closeParen => true
  | _ => false

/-- One item, or several with commas between and perhaps behind them. Without `parenthesized`, there
has to be an item. -/
def tupleOf {α : Type} (item : Reading α) (pack : List α → α) (stop : Token → Bool)
    (parenthesized : Bool) : Reading α := do
  let step : List α × Bool × Bool → Reading (Option (List α × Bool × Bool)) :=
    fun (items, isTuple, closed) => do
      if closed then return none
      if !items.isEmpty then expect (.sign .comma)
      let here ← current
      if endsTuple here.token || stop here.token then return some (items, isTuple, true)
      let next ← item
      let comma := (← current).token == .sign .comma
      return some (items ++ [next], isTuple || comma, !comma)
  let (items, isTuple, _) ← whileSome step ([], false, false)
  match items, isTuple with
  | [e], false => return e
  | [], false => do
    let here ← current
    if parenthesized then return pack []
    else fail here.line (.noExpression here.token.description)
  | items, _ => return pack items

/-! ## Calls and subscripts -/

/-- The arguments of a call, from the opening parenthesis to the closing one. -/
def arguments (whole : Reading Expr) : Reading (List (Passing × Expr)) := do
  let start ← current
  expect (.sign .openParen)
  let ensure (b : Bool) : Reading Unit := if b then pure () else fail start.line .badCall
  let has (passing : Passing) (given : List (Passing × Expr)) : Bool :=
    given.any fun a => a.1 == passing
  let (given, _) ← whileSome (α := List (Passing × Expr) × Bool) (fun (given, closed) => do
    if closed || (← current).token == .sign .closeParen then return none
    if !given.isEmpty then
      expect (.sign .comma)
    if (← current).token == .sign .closeParen then return some (given, true)
    match (← current).token with
    | .sign .star => do
      ensure (!has .spread given && !has .spreadNamed given)
      advance
      let e ← whole
      return some (given ++ [(.spread, e)], false)
    | .sign .twoStars => do
      ensure (!has .spreadNamed given)
      advance
      let e ← whole
      return some (given ++ [(.spreadNamed, e)], false)
    | .name key =>
      if (← upcoming).token == .sign .assign then
        ensure (!has .spreadNamed given)
        advance
        advance
        let e ← whole
        return some (given ++ [(.named key, e)], false)
      else
        ensure (given.all fun a => a.1 == .plain)
        let e ← whole
        return some (given ++ [(.plain, e)], false)
    | _ => do
      ensure (given.all fun a => a.1 == .plain)
      let e ← whole
      return some (given ++ [(.plain, e)], false)) ([], false)
  expect (.sign .closeParen)
  return given

/-- What stands between brackets behind an expression: a key, or the bounds and the step of a
slice. -/
inductive Subscript where
  | key (e : Expr)
  | slice (first last step : Option Expr)

/-- One subscript, up to a comma or the closing bracket. -/
def subscript (whole : Reading Expr) : Reading Subscript := do
  let ended : Reading Bool := do
    let token := (← current).token
    return token == .sign .closeBracket || token == .sign .comma
  let bound : Reading (Option Expr) := do
    if ← ended then return none
    else return some (← whole)
  let rest (first : Option Expr) : Reading Subscript := do
    let last ← if (← current).token == .sign .colon then pure none else bound
    let step ← if ← skipIf (.sign .colon) then bound else pure none
    return .slice first last step
  if ← skipIf (.sign .colon) then rest none
  else
    let e ← whole
    if ← skipIf (.sign .colon) then rest (some e) else return .key e

def Subscript.asKey : Subscript → Expr
  | .key e => e
  | .slice .. => .const .null

/-- A name, a number or a bracket behind an expression. -/
def subscripted (whole : Reading Expr) (owner : Expr) : Reading Expr := do
  if ← skipIf (.sign .dot) then
    let here ← current
    advance
    match here.token with
    | .name s => return .attribute owner s
    | .integer n => return .item owner (.const (.int n))
    | _ => fail here.line .noNameOrNumber
  else
    expect (.sign .openBracket)
    let keys ← whileSome (α := List Subscript) (fun keys => do
      if (← current).token == .sign .closeBracket then return none
      if !keys.isEmpty then expect (.sign .comma)
      return some (keys ++ [← subscript whole])) []
    expect (.sign .closeBracket)
    match keys with
    | [.key e] => return .item owner e
    | [.slice first last step] => return .slice owner first last step
    | keys => return .item owner (.tuple (keys.map Subscript.asKey))

/-! ## Operands -/

/-- The items of a list or the entries of a table, up to the closing sign. -/
def listed {α : Type} (closer : Sign) (item : Reading α) : Reading (List α) := do
  advance
  let (items, _) ← whileSome (α := List α × Bool) (fun (items, closed) => do
    if closed || (← current).token == .sign closer then return none
    if !items.isEmpty then expect (.sign .comma)
    if (← current).token == .sign closer then return some (items, true)
    return some (items ++ [← item], false)) ([], false)
  expect (.sign closer)
  return items

/-- A name, a literal, or what stands in brackets. -/
def primary (whole : Reading Expr) : Reading Expr := do
  let here ← current
  match here.token with
  | .name s => do
    advance
    if s == "true" || s == "True" then return .const (.bool true)
    else if s == "false" || s == "False" then return .const (.bool false)
    else if s == "none" || s == "None" then return .const .null
    else return .name s
  | .text s => do
    advance
    let s ← whileSome (fun s => do
      match (← current).token with
      | .text more => do
        advance
        return some (s ++ more)
      | _ => return none) s
    return .const (.str s)
  | .integer n => do
    advance
    return .const (.int n)
  | .decimal x => do
    advance
    return .const (.float x)
  | .sign .openParen => do
    advance
    let e ← tupleOf whole .tuple (fun _ => false) true
    expect (.sign .closeParen)
    return e
  | .sign .openBracket => return .list (← listed .closeBracket whole)
  | .sign .openBrace =>
    return .table (← listed .closeBrace (do
      let key ← whole
      expect (.sign .colon)
      return (key, ← whole)))
  | token => fail here.line (.unexpected token.description)

/-- Subscripts and calls behind an operand. -/
def withPostfix (whole : Reading Expr) (e : Expr) : Reading Expr :=
  whileSome (fun e => do
    match (← current).token with
    | .sign .dot | .sign .openBracket => return some (← subscripted whole e)
    | .sign .openParen => return some (.call e (← arguments whole))
    | _ => return none) e

/-- The name of a filter or a test, which may have dots inside. -/
def dottedName : Reading String := do
  let first ← expectName
  whileSome (fun name => do
    if ← skipIf (.sign .dot) then
      return some (name ++ "." ++ (← expectName))
    else return none) first

/-- Whether a token can begin the operand of a test. -/
def startsOperand : Token → Bool
  | .name s => s != "else" && s != "or" && s != "and"
  | .text _ | .integer _ | .decimal _ => true
  | .sign .openBracket | .sign .openBrace => true
  | _ => false

/-- A test behind the word `is`. -/
def tested (whole : Reading Expr) (e : Expr) : Reading Expr := do
  let line := (← current).line
  advance
  let negated ← skipIf (.name "not")
  let name ← dottedName
  let here ← current
  let given ←
    if here.token == .sign .openParen then arguments whole
    else if startsOperand here.token then do
      if here.token == .name "is" then fail here.line .chainedTests
      let operand ← withPostfix whole (← primary whole)
      pure [(Passing.plain, operand)]
    else pure []
  let test := Expr.test e name given line
  return if negated then .not test else test

/-- Filters, tests and calls behind an operand. -/
def withFilters (whole : Reading Expr) (e : Expr) : Reading Expr :=
  whileSome (fun e => do
    match (← current).token with
    | .sign .bar => do
      advance
      let line := (← current).line
      let name ← dottedName
      let given ← if (← current).token == .sign .openParen then arguments whole else pure []
      return some (.filter e name given line)
    | .name "is" => return some (← tested whole e)
    | .sign .openParen => return some (.call e (← arguments whole))
    | _ => return none) e

/-- An operand behind any number of signs; filters stand behind the whole. -/
def unary (whole : Reading Expr) : Reading Expr := do
  let signs ← whileSome (fun signs => do
    if ← skipIf (.sign .minus) then return some (Unary.negate :: signs)
    else if ← skipIf (.sign .plus) then return some (Unary.plus :: signs)
    else return none) []
  let e ← withPostfix whole (← primary whole)
  withFilters whole (signs.foldl (fun e sign => .unary sign e) e)

/-! ## Operators -/

/-- Operands with operators between them, grouped from the left. -/
def leftGrouped (operand : Reading Expr) (operator? : Token → Option (Expr → Expr → Expr)) :
    Reading Expr := do
  let first ← operand
  whileSome (fun e => do
    match operator? (← current).token with
    | some combine => do
      advance
      return some (combine e (← operand))
    | none => return none) first

def power (whole : Reading Expr) : Reading Expr :=
  leftGrouped (unary whole) fun
    | .sign .twoStars => some (.binary .pow)
    | _ => none

def product (whole : Reading Expr) : Reading Expr :=
  leftGrouped (power whole) fun
    | .sign .star => some (.binary .mul)
    | .sign .slash => some (.binary .div)
    | .sign .twoSlashes => some (.binary .floorDiv)
    | .sign .percent => some (.binary .rem)
    | _ => none

/-- Operands that are put together as texts. -/
def joined (whole : Reading Expr) : Reading Expr := do
  let first ← product whole
  let parts ← whileSome (fun parts => do
    if ← skipIf (.sign .tilde) then return some (parts ++ [← product whole])
    else return none) [first]
  return if parts.length == 1 then first else .concat parts

def sum (whole : Reading Expr) : Reading Expr :=
  leftGrouped (joined whole) fun
    | .sign .plus => some (.binary .add)
    | .sign .minus => some (.binary .sub)
    | _ => none

def comparison? : Token → Option Comparison
  | .sign .equal => some .equal
  | .sign .differ => some .differ
  | .sign .less => some .less
  | .sign .atMost => some .atMost
  | .sign .greater => some .greater
  | .sign .atLeast => some .atLeast
  | .name "in" => some .isIn
  | _ => none

/-- Operands compared in a chain. -/
def compared (whole : Reading Expr) : Reading Expr := do
  let first ← sum whole
  let others ← whileSome (α := List (Comparison × Expr)) (fun others => do
    let token := (← current).token
    match comparison? token with
    | some comparison => do
      advance
      return some (others ++ [(comparison, ← sum whole)])
    | none =>
      if token == .name "not" then
        if (← upcoming).token == .name "in" then
          advance
          advance
          return some (others ++ [(.notIn, ← sum whole)])
        else return none
      else return none) []
  return if others.isEmpty then first else .compare first others

def negated (whole : Reading Expr) : Reading Expr := do
  let count ← whileSome (fun n => do
    if ← skipIf (.name "not") then return some (n + 1) else return none) 0
  let e ← compared whole
  return Nat.repeat Expr.not count e

def conjunction (whole : Reading Expr) : Reading Expr :=
  leftGrouped (negated whole) fun
    | .name "and" => some .both
    | _ => none

def disjunction (whole : Reading Expr) : Reading Expr :=
  leftGrouped (conjunction whole) fun
    | .name "or" => some .either
    | _ => none

/-- An expression that may end in conditions. -/
def conditional (whole : Reading Expr) : Reading Expr := do
  let line := (← current).line
  let first ← disjunction whole
  let (e, _) ← whileSome (α := Expr × Nat) (fun (e, line) => do
    if ← skipIf (.name "if") then
      let condition ← disjunction whole
      let alternative ← if ← skipIf (.name "else") then some <$> whole else pure none
      let next := (← current).line
      return some (.choice condition e alternative line, next)
    else return none) (first, line)
  return e

/-- A whole expression of which at most `fuel` levels lie inside one another. -/
def expressionWithin : Nat → Reading Expr
  | 0 => do
    let here ← current
    fail here.line (.unexpected here.token.description)
  | fuel + 1 => conditional (expressionWithin fuel)

def expression : Reading Expr := do expressionWithin ((← get).length + 1)

/-- An expression that does not end in a condition. -/
def plainExpression : Reading Expr := disjunction expression

/-! ## Statements -/

def expressions (item : Reading Expr) (stop : Token → Bool) : Reading Expr :=
  tupleOf item .tuple stop false

/-- What a value is to be bound to; with `members`, this may be an attribute of a name. -/
def target (members : Bool) (stop : Token → Bool) : Reading Target := do
  let line := (← current).line
  let item : Reading (Except String Target) := do
    let here := (← current).line
    let e ← primary expression
    match e with
    | .name owner =>
      if members && (← current).token == .sign .dot then
        advance
        return .ok (.member owner (← expectName))
      else return .ok (.name owner here)
    | e => return Target.ofExpr here e
  let pack (parts : List (Except String Target)) : Except String Target :=
    match parts.mapM fun p => p.toOption with
    | some parts => .ok (.tuple parts)
    | none => .error "tuple"
  match ← tupleOf item pack stop false with
  | .ok t => return t
  | .error kind => fail line (.notAssignable kind)

/-- Reads the statements up to one of the given tags, and goes on behind the name of that tag. -/
abbrev Body := List String → Reading (List Statement × String)

/-- Goes on behind the end of a tag, which may follow a colon, to the body that it opens. -/
def bodyOf (body : Body) (closers : List String) : Reading (List Statement × String) := do
  let _ ← skipIf (.sign .colon)
  expect .closeTag
  body closers

def setStatement (body : Body) : Reading Statement := do
  let bound ← target true fun _ => false
  if ← skipIf (.sign .assign) then
    return .set bound (← expressions expression fun _ => false)
  else
    let (inside, _) ← bodyOf body ["endset"]
    return .capture bound inside

def eachStatement (body : Body) : Reading Statement := do
  let bound ← target false (· == .name "in")
  expect (.name "in")
  let source ← expressions plainExpression (· == .name "recursive")
  let condition ← if ← skipIf (.name "if") then some <$> expression else pure none
  let _ ← skipIf (.name "recursive")
  let (inside, closer) ← bodyOf body ["endfor", "else"]
  if closer == "endfor" then return .each bound source condition inside []
  else
    let (otherwise, _) ← bodyOf body ["endfor"]
    return .each bound source condition inside otherwise

def chooseStatement (body : Body) : Reading Statement := do
  let (branches, closer) ← whileSome (α := List (Expr × List Statement) × String)
    (fun (branches, closer) => do
      if closer == "else" || closer == "endif" then return none
      let condition ← expressions plainExpression fun _ => false
      let (inside, closer) ← bodyOf body ["elif", "else", "endif"]
      return some (branches ++ [(condition, inside)], closer)) ([], "elif")
  if closer == "else" then
    let (otherwise, _) ← bodyOf body ["endif"]
    return .choose branches otherwise
  else return .choose branches []

/-- The statement whose tag has just been opened; `bodyIn` reads the bodies of a block with the
given name. -/
def statement (blocks : List OpenBlock) (bodyIn : String → Body) : Reading Statement := do
  let here ← current
  match here.token with
  | .name tag =>
    match tag with
    | "if" => do
      advance
      chooseStatement (bodyIn tag)
    | "for" => do
      advance
      eachStatement (bodyIn tag)
    | "set" => do
      advance
      setStatement (bodyIn tag)
    | _ => fail here.line (.unknownTag tag blocks)
  | _ => fail here.line .noTagName

/-- The next statement, if no closing tag of the innermost block and no end comes first. -/
def nextStatement (blocks : List OpenBlock) (bodyIn : String → Body) :
    Reading (Option Statement) := do
  let closers := (blocks.head?.map OpenBlock.closers).getD []
  match (← current).token with
  | .words cs => do
    advance
    return some (.words cs)
  | .openPrint => do
    advance
    let e ← expressions expression fun _ => false
    expect .closePrint
    return some (.print e)
  | .openTag => do
    advance
    match (← current).token with
    | .name tag =>
      if closers.contains tag then return none
      else
        let s ← statement blocks bodyIn
        expect .closeTag
        return some s
    | _ => some <$> statement blocks bodyIn
  | _ => return none

/-- The statements inside the given blocks, of which at most `fuel` more lie inside one another. -/
def statementsWithin : Nat → List OpenBlock → Reading (List Statement)
  | 0, _ => return []
  | fuel + 1, blocks => do
    let bodyIn (tag : String) : Body := fun closers => do
      let inside ← statementsWithin fuel (⟨tag, closers⟩ :: blocks)
      let here ← current
      match here.token with
      | .name closer => do
        advance
        return (inside, closer)
      | _ => fail here.line (.endedInside (⟨tag, closers⟩ :: blocks))
    whileSome (fun found => do
      match ← nextStatement blocks bodyIn with
      | some s => return some (found ++ [s])
      | none => return none) []

def statements : Reading (List Statement) := do
  sound (← current)
  statementsWithin ((← get).length + 1) []

/-- The statements of a text. -/
def read (s : String) : Except Refusal (List Statement) := (statements.run (scan s)).map Prod.fst

end FlexForm.Grammar
