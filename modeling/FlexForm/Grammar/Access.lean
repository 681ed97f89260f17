import FlexForm.Grammar.Operator

/-! # Parts of values

Reading an attribute, an item or a slice of a value. What is not there is a missing value that
remembers its owner; reading a missing value further gives the same missing value again, unless it
is a strict one.

* `Value.attribute`: the attribute with a name; of a table, the value of a key.
* `Value.item`: the item with a key.
* `Value.slice`: the items from one place to another.
-/

namespace FlexForm.Grammar
set_option autoImplicit false

/-! ## Methods -/

def textMethods : List String :=
  ["capitalize", "casefold", "center", "count", "encode", "endswith", "expandtabs", "find",
   "format", "format_map", "index", "isalnum", "isalpha", "isascii", "isdecimal", "isdigit",
   "isidentifier", "islower", "isnumeric", "isprintable", "isspace", "istitle", "isupper", "join",
   "ljust", "lower", "lstrip", "maketrans", "partition", "removeprefix", "removesuffix", "replace",
   "rfind", "rindex", "rjust", "rpartition", "rsplit", "rstrip", "split", "splitlines",
   "startswith", "strip", "swapcase", "title", "translate", "upper", "zfill"]

def Value.methods : Value → List String
  | .str _ => textMethods
  | .list _ =>
    ["append", "clear", "copy", "count", "extend", "index", "insert", "pop", "remove", "reverse",
     "sort"]
  | .tuple _ => ["count", "index"]
  | .table _ =>
    ["clear", "copy", "fromkeys", "get", "items", "keys", "pop", "popitem", "setdefault", "update",
     "values"]
  | .bool _ | .int _ =>
    ["as_integer_ratio", "bit_count", "bit_length", "conjugate", "from_bytes", "to_bytes"]
  | .float _ => ["as_integer_ratio", "conjugate", "fromhex", "hex", "is_integer"]
  | .loop .. => ["changed", "cycle"]
  | _ => []

def Number.part? (n : Number) (name : String) : Option Value :=
  match n, name with
  | n, "real" => some n.value
  | .int _, "imag" => some (.int 0)
  | .float _, "imag" => some (.float (.zero false))
  | .int n, "numerator" => some (.int n)
  | .int _, "denominator" => some (.int 1)
  | _, _ => none

/-- The words behind what has no value at the ends of a loop. -/
def noNeighbour (words : String) : Value := .missing false (.hint words)

/-- What is known about the place inside a loop. -/
def loopPart? (index : Nat) (previous : Option Value) (following : List Value)
    (fault : Option Fault) (name : String) : Option (Except Fault Value) :=
  let counted (n : Nat) : Except Fault Value :=
    match fault with
    | some fault => .error fault
    | none => .ok (.int n)
  match name with
  | "index" => some (.ok (.int (index + 1)))
  | "index0" => some (.ok (.int index))
  | "revindex" => some (counted (following.length + 1))
  | "revindex0" => some (counted following.length)
  | "length" => some (counted (index + 1 + following.length))
  | "first" => some (.ok (.bool (index == 0)))
  | "last" => some (match following, fault with
    | [], some fault => .error fault
    | following, _ => .ok (.bool following.isEmpty))
  | "depth" => some (.ok (.int 1))
  | "depth0" => some (.ok (.int 0))
  | "previtem" => some (.ok (previous.getD (noNeighbour "there is no previous item")))
  | "nextitem" => some (match following, fault with
    | next :: _, _ => .ok next
    | [], some fault => .error fault
    | [], none => .ok (noNeighbour "there is no next item"))
  | _ => none

/-- Names that begin and end with two underscores. -/
def isReserved (name : String) : Bool := name.startsWith "__" && name.endsWith "__"

/-- The missing value behind a name that must not be read. -/
def forbidden (owner : Value) (name : String) : Value :=
  .missing false (.hint
    s!"access to attribute {Text.quoted name} of {Text.quoted owner.typeName} object is unsafe.")

/-- An attribute that the value has by its kind. -/
def Value.ownAttribute? (v : Value) (name : String) : Option (Except Fault Value) :=
  match v with
  | .loop index previous _ following fault =>
    match loopPart? index previous following fault name with
    | some part => some part
    | none => common v
  | v =>
    match v.number?.bind (Number.part? · name) with
    | some part => some (.ok part)
    | none => common v
where
  common (v : Value) : Option (Except Fault Value) :=
    if v.methods.contains name then some (.ok (.method name v))
    else if isReserved name then some (.ok (forbidden v name))
    else none

/-! ## Reading -/

def Value.attribute (v : Value) (name : String) : Except Fault Value :=
  let absent : Except Fault Value := .ok (.missing false (.attribute v.ownerName name))
  match v with
  | .table entries =>
    match valueAt? entries (.str name) with
    | some w => .ok w
    | none => absent
  | .missing strict why =>
    if strict then .error (.missing why)
    else if name.startsWith "_" then .ok (forbidden v name)
    else .ok v
  | v => (v.ownAttribute? name).getD absent

/-- The place in a sequence that a key stands for: a negative one counts from the end. -/
def placeIn (length : Nat) (key : Value) : Option Nat :=
  match key.number? with
  | some (.int n) =>
    let n := if n < 0 then n + length else n
    if 0 ≤ n && n < length then some n.toNat else none
  | _ => none

/-- The value under a key; a text that is no key may be the name of an attribute. -/
def Value.item (v key : Value) : Except Fault Value :=
  let otherwise : Except Fault Value :=
    match key with
    | .str name =>
      (v.ownAttribute? name).getD (.ok (.missing false (.attribute v.ownerName name)))
    | key => .ok (.missing false (.element v.ownerName key.display))
  match v with
  | .table entries => ((valueAt? entries key).map Except.ok).getD otherwise
  | .list items | .tuple items =>
    (((placeIn items.length key).bind (items[·]?)).map Except.ok).getD otherwise
  | .str s =>
    let cs := s.toList
    match (placeIn cs.length key).bind (cs[·]?) with
    | some c => .ok (.str (String.singleton c))
    | none => otherwise
  | .missing strict why => if strict then .error (.missing why) else .ok v
  | _ => otherwise

/-! ## Slices -/

def sliceBound (v : Option Value) : Except Fault (Option Int) :=
  match v with
  | none => .ok none
  | some .null => .ok none
  | some v =>
    match v.number? with
    | some (.int n) => .ok (some n)
    | _ => .error .sliceBound

/-- The places of a slice of a sequence with the given length. -/
def slicePlaces (length : Nat) (first last : Option Int) (step : Int) : List Nat :=
  let size : Int := length
  let low : Int := if step < 0 then -1 else 0
  let high : Int := if step < 0 then size - 1 else size
  let clamp (n : Int) : Int :=
    if n < 0 then max (n + size) low else min n high
  let start := (first.map clamp).getD (if step < 0 then high else low)
  let stop := (last.map clamp).getD (if step < 0 then low else high)
  let count : Int :=
    if step < 0 then if stop < start then (start - stop - 1) / (-step) + 1 else 0
    else if start < stop then (stop - start - 1) / step + 1 else 0
  (List.range count.toNat).map fun k : Nat => (start + step * (k : Int)).toNat

def Value.slice (v : Value) (first last step : Option Value) : Except Fault Value := do
  let pick {α : Type} (items : List α) : Except Fault (List α) := do
    let step := (← sliceBound step).getD 1
    if step == 0 then throw .zeroStep
    let first ← sliceBound first
    let last ← sliceBound last
    return (slicePlaces items.length first last step).filterMap (items[·]?)
  match v with
  | .list items => .list <$> pick items
  | .tuple items => .tuple <$> pick items
  | .str s => do return .str (String.ofList (← pick s.toList))
  | .table _ => throw (.unhashable "slice")
  | .missing strict why => if strict then throw (.missing why) else return v
  | v => throw (.notSubscriptable v.typeName)

end FlexForm.Grammar
