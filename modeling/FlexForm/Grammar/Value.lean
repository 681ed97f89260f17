import FlexForm.Grammar.Fault
import FlexForm.Json.Display

/-! # Values of template expressions

Besides the values of JSON there are tuples, tables whose keys are any values, missing values, the
helpers, methods, the place inside a loop, and the marker of a path that leads nowhere.

* `Helper`, `Value`: the types; `Value.ofJson` takes a JSON value in.
* `Value.typeName`, `Value.isTruthy`, `Value.items`, `Value.count`.
* `Value.equiv`, `Value.strictEquals`: equality.
* `Value.display`, `Value.shown`: the value inside others, and the text that a print puts out.
* `Value.toJson`: the JSON value, when there is one.
-/

namespace FlexForm.Grammar
set_option autoImplicit false

/-- The functions that every template text may call. -/
inductive Helper where
  | json | default | hasItems | eq | ne | all
  deriving DecidableEq, Inhabited

def Helper.name : Helper → String
  | .json => "json" | .default => "default" | .hasItems => "hasItems"
  | .eq => "eq" | .ne => "ne" | .all => "and_"

def Helper.every : List Helper := [.json, .default, .hasItems, .eq, .ne, .all]

def Helper.ofName? (name : String) : Option Helper := every.find? (·.name == name)

inductive Value where
  | null
  | bool (b : Bool)
  | int (n : Int)
  | float (x : Binary64)
  | str (s : String)
  | list (items : List Value)
  | tuple (items : List Value)
  | table (entries : List (Value × Value))
  /-- A missing value; a strict one cannot be read further. -/
  | missing (strict : Bool) (absence : Absence)
  | helper (h : Helper)
  | method (name : String) (receiver : Value)
  /-- The place inside a loop: how many rounds are over, the items of the round before, of this one
  and of those that follow, and the fault that comes after them. -/
  | loop (index : Nat) (previous : Option Value) (current : Value) (following : List Value)
      (fault : Option Fault)
  | nowhere
  deriving Inhabited

namespace Value

mutual

def ofJson : Json → Value
  | .null => .null
  | .bool b => .bool b
  | .int n => .int n
  | .float x => .float x
  | .str s => .str s
  | .arr items => .list (ofItems items)
  | .obj fields => .table (ofFields fields)

def ofItems : List Json → List Value
  | [] => []
  | v :: rest => ofJson v :: ofItems rest

def ofFields : List (String × Json) → List (Value × Value)
  | [] => []
  | (k, v) :: rest => (.str k, ofJson v) :: ofFields rest

end

def typeName : Value → String
  | .null => "NoneType"
  | .bool _ => "bool"
  | .int _ => "int"
  | .float _ => "float"
  | .str _ => "str"
  | .list _ => "list"
  | .tuple _ => "tuple"
  | .table _ => "dict"
  | .missing strict _ => if strict then "Undefined" else "ChainableUndefined"
  | .helper _ => "function"
  | .method .. => "builtin_function_or_method"
  | .loop .. => "LoopContext"
  | .nowhere => "_Missing"

/-- How the owner of a missing attribute is called. -/
def ownerName : Value → String
  | .null => "None"
  | .loop .. => "jinja2.runtime.LoopContext object"
  | v => typeName v ++ " object"

def isMissing : Value → Bool
  | .missing .. => true
  | _ => false

def isTruthy : Value → Bool
  | .null => false
  | .bool b => b
  | .int n => n != 0
  | .float x => !x.isZero
  | .str s => s != ""
  | .list items | .tuple items => !items.isEmpty
  | .table entries => !entries.isEmpty
  | .missing .. => false
  | .helper _ | .method .. | .loop .. => true
  | .nowhere => false

/-! ## Parts -/

def items : Value → Except Fault (List Value)
  | .list items | .tuple items => .ok items
  | .str s => .ok (s.toList.map fun c => .str (String.singleton c))
  | .table entries => .ok (entries.map Prod.fst)
  | .missing .. => .ok []
  | .loop .. => .ok []
  | v => .error (.notIterable v.typeName)

def count : Value → Except Fault Nat
  | .loop index _ _ following fault =>
    match fault with
    | some fault => .error fault
    | none => .ok (index + 1 + following.length)
  | v =>
    match v.items with
    | .ok items => .ok items.length
    | .error _ => .error (.notSized v.typeName)

/-! ## Equality -/

/-- A value without parts as a JSON value. -/
def scalar? : Value → Option Json
  | .null => some .null
  | .bool b => some (.bool b)
  | .int n => some (.int n)
  | .float x => some (.float x)
  | .str s => some (.str s)
  | _ => none

mutual

def equiv : Value → Value → Bool
  | .list xs, .list ys => equivItems xs ys
  | .tuple xs, .tuple ys => equivItems xs ys
  | .table xs, .table ys => xs.length == ys.length && equivEntries xs ys
  | .missing s _, .missing t _ => s == t
  | .helper g, .helper h => g == h
  | .nowhere, .nowhere => true
  | a, b =>
    match a.scalar?, b.scalar? with
    | some a, some b => a.scalarEquiv b
    | _, _ => false

def equivItems : List Value → List Value → Bool
  | [], [] => true
  | x :: xs, y :: ys => equiv x y && equivItems xs ys
  | _, _ => false

/-- Whether every entry on the left has an equal one on the right. -/
def equivEntries : List (Value × Value) → List (Value × Value) → Bool
  | [], _ => true
  | (k, v) :: rest, ys => ys.any (fun e => equiv k e.1 && equiv v e.2) && equivEntries rest ys

end

/-- Equality by value that never takes a truth value for a number at the top. -/
def strictEquals : Value → Value → Bool
  | .bool a, .bool b => a == b
  | .bool _, _ | _, .bool _ => false
  | a, b => equiv a b

def valueAt? (entries : List (Value × Value)) (key : Value) : Option Value :=
  (entries.find? fun e => e.1.equiv key).map Prod.snd

/-- Whether the value can be a key; otherwise the name of the kind that cannot. -/
def unhashable? : Value → Option String
  | .list _ => some "list"
  | .table _ => some "dict"
  | .tuple items => inside items
  | _ => none
where
  inside : List Value → Option String
    | [] => none
    | v :: rest => (unhashable? v).or (inside rest)

/-- The table with the given entries, a repeated key keeping its first place and last value. -/
def tableOf (entries : List (Value × Value)) : List (Value × Value) :=
  entries.foldl (fun table e =>
    if table.any (fun f => f.1.equiv e.1) then
      table.map fun f => if f.1.equiv e.1 then (f.1, e.2) else f
    else table ++ [e]) []

/-! ## Texts -/

mutual

/-- Whether every integer inside is short enough to be written in decimal. -/
def isWritable : Value → Bool
  | .int n => Json.isShortInt n
  | .list items | .tuple items => areWritable items
  | .table entries => areWritableEntries entries
  | _ => true

def areWritable : List Value → Bool
  | [] => true
  | v :: rest => isWritable v && areWritable rest

def areWritableEntries : List (Value × Value) → Bool
  | [] => true
  | (k, v) :: rest => isWritable k && isWritable v && areWritableEntries rest

end

mutual

/-- The value as it is shown inside another one. -/
def display : Value → String
  | .null => "None"
  | .bool b => if b then "True" else "False"
  | .int n => String.ofList (Json.intChars n)
  | .float x => String.ofList (Layout.display.write x)
  | .str s => Text.quoted s
  | .list items => "[" ++ ", ".intercalate (displayItems items) ++ "]"
  | .tuple [v] => "(" ++ display v ++ ",)"
  | .tuple items => "(" ++ ", ".intercalate (displayItems items) ++ ")"
  | .table entries => "\x7b" ++ ", ".intercalate (displayEntries entries) ++ "\x7d"
  | .missing .. => "Undefined"
  | .helper h => s!"<function {h.name}>"
  | .method name v => s!"<built-in method {name} of {typeName v} object>"
  | .loop index _ _ following _ =>
    s!"<LoopContext {index + 1}/{index + 1 + following.length}>"
  | .nowhere => "MISSING"

def displayItems : List Value → List String
  | [] => []
  | v :: rest => display v :: displayItems rest

def displayEntries : List (Value × Value) → List String
  | [] => []
  | (k, v) :: rest => (display k ++ ": " ++ display v) :: displayEntries rest

end

/-- The text that a print of the value puts out: a text stands without quotes, and a missing value
is no text at all. -/
def shown (v : Value) : Except Fault String :=
  match v with
  | .str s => .ok s
  | .missing .. => .ok ""
  | v => if v.isWritable then .ok v.display else .error .longInteger

/-! ## JSON -/

def keyText : Value → Except Fault String
  | .str s => .ok s
  | .null => .ok "null"
  | .bool b => .ok (if b then "true" else "false")
  | .int n =>
    if Json.isShortInt n then .ok (String.ofList (Json.intChars n)) else .error .longInteger
  | .float x => .ok (String.ofList (Layout.token.write x))
  | v => .error (.badKey v.typeName)

mutual

/-- The JSON value, if every part has one. -/
def toJson : Value → Except Fault Json
  | .null => .ok .null
  | .bool b => .ok (.bool b)
  | .int n => if Json.isShortInt n then .ok (.int n) else .error .longInteger
  | .float x => .ok (.float x)
  | .str s => .ok (.str s)
  | .list items | .tuple items => (toItems items).map Json.arr
  | .table entries => (toFields entries).map Json.obj
  | v => .error (.notSerializable v.typeName)

def toItems : List Value → Except Fault (List Json)
  | [] => .ok []
  | v :: rest => do
    let w ← toJson v
    return w :: (← toItems rest)

def toFields : List (Value × Value) → Except Fault (List (String × Json))
  | [] => .ok []
  | (k, v) :: rest => do
    let name ← keyText k
    let w ← toJson v
    return (name, w) :: (← toFields rest)

end

/-! ## Small facts -/

theorem shown_str (s : String) : shown (.str s) = .ok s := rfl

end Value

end FlexForm.Grammar
