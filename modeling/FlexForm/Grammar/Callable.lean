import FlexForm.Grammar.Access
import FlexForm.Text.Case

/-! # Helpers, filters and tests

What template texts can call. The arguments of a call are matched with the parameters first.

* `Signature.bind`: the values of the parameters.
* `Helper.call`: the helpers, by the kind of question that they answer.
* `Filter`, `Filter.call`; `Test`, `Test.call`: what stands behind a bar, and behind `is`.
-/

namespace FlexForm.Grammar
set_option autoImplicit false

/-! ## Arguments -/

/-- The arguments of a call: those without a name, and those with one. -/
structure Arguments where
  plain : List Value
  named : List (String × Value)

/-- The parameters of a callable, each with its value when it is left out; `hidden` ones come before
them and are not given by the caller. -/
structure Signature where
  name : String
  parameters : List (String × Option Value)
  hidden : Nat := 0

def Signature.bindNamed (sig : Signature) (given : List (String × Value)) :
    List (String × Value) → Except Fault (List (String × Value))
  | [] => .ok given
  | (key, v) :: rest =>
    if !sig.parameters.any (fun p => p.1 == key) then .error (.unknownArgument sig.name key)
    else if given.any (fun p => p.1 == key) then .error (.repeatedArgument sig.name key)
    else sig.bindNamed (given ++ [(key, v)]) rest

/-- The values of the parameters, in their order. -/
def Signature.bind (sig : Signature) (arguments : Arguments) : Except Fault (List Value) := do
  let names := sig.parameters.map Prod.fst
  let given ← sig.bindNamed (names.zip arguments.plain) arguments.named
  let needed := sig.parameters.filter fun p => p.2.isNone
  if arguments.plain.length > names.length then
    throw (.argumentsLeft sig.name (needed.length + sig.hidden) (names.length + sig.hidden)
      (arguments.plain.length + sig.hidden))
  let absent := needed.filter fun p => !given.any fun g => g.1 == p.1
  if !absent.isEmpty then throw (.argumentsMissing sig.name (absent.map Prod.fst))
  return sig.parameters.map fun p =>
    ((given.find? fun g => g.1 == p.1).map Prod.snd).getD (p.2.getD .null)

/-! ## Helpers -/

/-- The value as a token of JSON; what is missing is null. -/
def jsonToken (v : Value) : Except Fault String :=
  match v with
  | .missing .. => .ok "null"
  | v => do return (← v.toJson).text

/-- The value, or the other one when it is missing, null or blank. -/
def orFallback (v fallback : Value) : Value :=
  match v with
  | .missing .. | .null => fallback
  | .str s => if Text.isAllBlank s then fallback else v
  | v => v

def isFilledList : Value → Bool
  | .list items => !items.isEmpty
  | _ => false

/-- Strict equality, where missing values equal missing ones only. -/
def sameValue (a b : Value) : Bool :=
  if a.isMissing || b.isMissing then a.isMissing && b.isMissing else a.strictEquals b

def Helper.signature : Helper → Signature
  | .json => ⟨"to_json", [("value", none)], 0⟩
  | .default => ⟨"default", [("value", none), ("fallback", some .null)], 0⟩
  | .hasItems => ⟨"has_items", [("value", none)], 0⟩
  | .eq => ⟨"eq", [("a", none), ("b", none)], 0⟩
  | .ne => ⟨"ne", [("a", none), ("b", none)], 0⟩
  | .all => ⟨"all_truthy", [], 0⟩

def Helper.call (h : Helper) (arguments : Arguments) : Except Fault Value :=
  match h with
  | .all =>
    match arguments.named with
    | (key, _) :: _ => .error (.unknownArgument h.signature.name key)
    | [] => .ok (.bool (arguments.plain.all Value.isTruthy))
  | h => do
    match h, ← h.signature.bind arguments with
    | .json, [v] => return .str (← jsonToken v)
    | .default, [v, fallback] => return orFallback v fallback
    | .hasItems, [v] => return .bool (isFilledList v)
    | .eq, [a, b] => return .bool (sameValue a b)
    | .ne, [a, b] => return .bool (!sameValue a b)
    | _, _ => return .null

/-! ## Filters -/

inductive Filter where
  | json | upper | lower | length | first | last | join | trim | replace | default
  deriving DecidableEq, Inhabited

def Filter.name : Filter → String
  | .json => "json" | .upper => "upper" | .lower => "lower" | .length => "length"
  | .first => "first" | .last => "last" | .join => "join" | .trim => "trim"
  | .replace => "replace" | .default => "default"

def Filter.every : List Filter :=
  [.json, .upper, .lower, .length, .first, .last, .join, .trim, .replace, .default]

def Filter.ofName? (name : String) : Option Filter := every.find? (·.name == name)

def Filter.signature : Filter → Signature
  | .json => Helper.json.signature
  | .upper => ⟨"do_upper", [("s", none)], 0⟩
  | .lower => ⟨"do_lower", [("s", none)], 0⟩
  | .length => ⟨"len", [("obj", none)], 0⟩
  | .first => ⟨"sync_do_first", [("seq", none)], 1⟩
  | .last => ⟨"do_last", [("seq", none)], 1⟩
  | .join =>
    ⟨"sync_do_join", [("value", none), ("d", some (.str "")), ("attribute", some .null)], 1⟩
  | .trim => ⟨"do_trim", [("value", none), ("chars", some .null)], 0⟩
  | .replace =>
    ⟨"do_replace", [("s", none), ("old", none), ("new", none), ("count", some .null)], 1⟩
  | .default =>
    ⟨"do_default",
      [("value", none), ("default_value", some (.str "")), ("boolean", some (.bool false))], 0⟩

/-- The text without the characters of `chars` at both ends. -/
def stripped (chars : List Char) (s : List Char) : List Char :=
  ((s.dropWhile chars.contains).reverse.dropWhile chars.contains).reverse

/-- The text in which the first occurrences of `old`, at most `limit` if there is a limit, are
replaced; `skip` characters belong to an occurrence already. An empty text occurs before every
character and at the end. -/
def replaced (old new : List Char) : Option Nat → Nat → List Char → List Char
  | some 0, 0, s => s
  | limit, skip + 1, _ :: rest => replaced old new limit skip rest
  | _, _ + 1, [] => []
  | _, 0, [] => if old.isEmpty then new else []
  | limit, 0, c :: rest =>
    if old.isPrefixOf (c :: rest) then
      let limit := limit.map (· - 1)
      if old.isEmpty then new ++ c :: replaced old new limit 0 rest
      else new ++ replaced old new limit (old.length - 1) rest
    else c :: replaced old new limit 0 rest

/-- The keys that the words between dots stand for. -/
def attributeKeys (v : Value) : List Value :=
  match v with
  | .null => []
  | .str s =>
    (s.splitOn ".").map fun word =>
      if !word.isEmpty && word.toList.all Char.isDigit then .int (word.toNat?.getD 0)
      else .str word
  | v => [v]

def joinedText (values : List Value) (separator : String) : Except Fault Value := do
  let words ← values.mapM Value.shown
  return .str (separator.intercalate words)

def lastOf (v : Value) : Except Fault Value :=
  match v.items with
  | .error _ => .error (.notReversible v.typeName)
  | .ok items =>
    .ok (items.getLast?.getD (.missing false (.hint "No last item, sequence was empty.")))

def firstOf (v : Value) : Except Fault Value := do
  match ← v.items with
  | first :: _ => return first
  | [] => return .missing false (.hint "No first item, sequence was empty.")

def replacedText (s old new : String) (count : Value) : Except Fault Value :=
  let done (limit : Option Nat) : Except Fault Value :=
    .ok (.str (String.ofList (replaced old.toList new.toList limit 0 s.toList)))
  match count with
  | .null => done none
  | count =>
    match count.number? with
    | some (.int n) => done (if n < 0 then none else some n.toNat)
    | _ => .error (.notIndex count.typeName)

def Filter.call (f : Filter) (arguments : Arguments) : Except Fault Value := do
  let given := arguments.plain.length + arguments.named.length
  if f == .length && given != 1 then
    throw (if arguments.named.isEmpty then .oneArgument "len" given else .noNames "len")
  match f, ← f.signature.bind arguments with
  | .json, [v] => return .str (← jsonToken v)
  | .upper, [v] => return .str (Text.upper (← v.shown))
  | .lower, [v] => return .str (Text.lower (← v.shown))
  | .length, [v] => return .int (← v.count)
  | .first, [v] => firstOf v
  | .last, [v] => lastOf v
  | .join, [v, separator, path] => do
    let values ← v.items
    let values ← values.mapM fun v => (attributeKeys path).foldlM Value.item v
    joinedText values (← separator.shown)
  | .trim, [v, chars] => do
    let s := (← v.shown).toList
    match chars with
    | .null => return .str (String.ofList (Text.trim s))
    | .str chars => return .str (String.ofList (stripped chars.toList s))
    | _ => throw .badStrip
  | .replace, [s, old, new, count] => do
    replacedText (← s.shown) (← old.shown) (← new.shown) count
  | .default, [v, other, boolean] =>
    return if v.isMissing || (boolean.isTruthy && !v.isTruthy) then other else v
  | _, _ => return .null

/-! ## Tests -/

inductive Test where
  | defined | undefined | none | string | number | mapping | iterable
  deriving DecidableEq, Inhabited

def Test.name : Test → String
  | .defined => "defined" | .undefined => "undefined" | .none => "none" | .string => "string"
  | .number => "number" | .mapping => "mapping" | .iterable => "iterable"

def Test.every : List Test :=
  [.defined, .undefined, .none, .string, .number, .mapping, .iterable]

def Test.ofName? (name : String) : Option Test := every.find? (·.name == name)

def Test.holds (t : Test) (v : Value) : Bool :=
  match t with
  | .defined => !v.isMissing
  | .undefined => v.isMissing
  | .none => match v with
    | .null => true
    | _ => false
  | .string => match v with
    | .str _ => true
    | _ => false
  | .number => v.number?.isSome
  | .mapping => match v with
    | .table _ => true
    | _ => false
  | .iterable => match v.items with
    | .ok _ => true
    | .error _ => false

def Test.call (t : Test) (arguments : Arguments) : Except Fault Value := do
  let sig : Signature := ⟨"test_" ++ t.name, [("value", Option.none)], 0⟩
  match ← sig.bind arguments with
  | [v] => return .bool (t.holds v)
  | _ => return .null

/-! ## Calls -/

def Value.call (callee : Value) (arguments : Arguments) : Except Fault Value :=
  match callee with
  | .helper h => h.call arguments
  | .missing _ why => .error (.missing why)
  | .method "upper" (.str s) =>
    if !arguments.named.isEmpty then .error (.noNames "str.upper")
    else if !arguments.plain.isEmpty then
      .error (.noArguments "str.upper" arguments.plain.length)
    else .ok (.str (Text.upper s))
  | v => .error (.notCallable v.typeName)

end FlexForm.Grammar
