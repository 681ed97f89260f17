import FlexForm.Json.Reader
import FlexForm.Record.Complaint

/-! # Reading records

A loader takes a JSON value for a part of a record. Values of a neighbouring kind are converted
where that is harmless: the text of an integer, an integral number, the usual words for truth
values. A part has a written name and another one that is also taken; the written one wins.

* `Load.text`, `Load.integer`, `Load.boolean`, `Load.list`, `Load.object`, `Load.oneOf`: loaders for
  single values.
* `Load.required`, `Load.optional`, `Load.nullable`: the parts of a record, by name.
* `Load.record`: a whole record.
-/

namespace FlexForm.Load
set_option autoImplicit false

-- Powers are the built-in ones, also where a library of algebra brings others.
attribute [local instance (high)] instPowNat

variable {α : Type}

abbrev Loader (α : Type) := Json → Checked α

/-! ## Single values -/

def any : Loader Json := fun v => .ok v

def text : Loader String
  | .str s => .ok s
  | v => .fail .notText v

/-- The digits of an integer without zeros before them: zeros and underscores after a first zero
are dropped, but for the last sign. -/
def withoutZeros (s : List Char) : List Char :=
  match s with
  | '0' :: rest =>
    match rest.dropWhile fun c => c == '0' || c == '_' with
    | [] => (s.getLast?.map fun c => [c]).getD []
    | '.' :: fraction => '0' :: '.' :: fraction
    | digits => digits
  | _ => s

/-- The text without a fraction of zeros. -/
def withoutFraction (s : List Char) : List Char :=
  match s.dropWhile (· != '.') with
  | '.' :: zeros => if zeros.all (· == '0') then s.takeWhile (· != '.') else s
  | _ => s

def hasDoubleUnderscore : List Char → Bool
  | '_' :: '_' :: _ => true
  | _ :: rest => hasDoubleUnderscore rest
  | [] => false

/-- The text without single underscores between its digits. -/
def withoutUnderscores (s : List Char) : List Char :=
  if s.head? == some '_' || s.getLast? == some '_' || hasDoubleUnderscore s then s
  else s.filter (· != '_')

/-- The integer that a text stands for: digits, perhaps with a sign, underscores between them and a
fraction of zeros. -/
def integerOf? (s : List Char) : Option Int :=
  let s := Text.trim s
  let signless := match s with
    | '+' :: rest => if rest.head? == some '-' then none else some rest
    | _ => some s
  match signless with
  | none => none
  | some s =>
    let startsWell := s.head?.any fun c => c.isDigit || c == '-'
    let cleaned := withoutUnderscores (withoutFraction (withoutZeros s))
    let (negative, digits) := match cleaned with
      | '-' :: rest => (true, rest)
      | _ => (false, cleaned)
    if startsWell && !digits.isEmpty && digits.all Char.isDigit then
      let n : Int := Json.decimalOf digits
      some (if negative then -n else n)
    else none

/-- Integral numbers up to this size are taken for integers. -/
def wordLimit : Nat := 2 ^ (63 : Nat)

def integer : Loader Int
  | .int n => .ok n
  | .bool b => .ok (if b then 1 else 0)
  | .float x =>
    match x.trunc? with
    | none => .fail .infinite (.float x)
    | some n =>
      if !x.isIntegral then .fail .fractional (.float x)
      else if n.natAbs < wordLimit then .ok n
      else .fail .oversizedInteger (.float x)
  | .str s =>
    if (Text.trim s.toList).length > Json.maxDigits then .fail .oversizedInteger (.str s)
    else match integerOf? s.toList with
      | some n => .ok n
      | none => .fail .unreadableInteger (.str s)
  | v => .fail .notInteger v

def integerIn (least : Int) (most : Option Int) : Loader Int := fun v =>
  (integer v).andThen fun n =>
    if n < least then .fail (.tooSmall least) v
    else match most with
      | some m => if m < n then .fail (.tooLarge m) v else .ok n
      | none => .ok n

def trueWords : List String := ["1", "t", "y", "on", "yes", "true"]

def falseWords : List String := ["0", "f", "n", "no", "off", "false"]

def boolean : Loader Bool
  | .bool b => .ok b
  | .int n =>
    if n == 0 then .ok false
    else if n == 1 then .ok true
    else if -(wordLimit : Int) ≤ n && n < wordLimit then .fail .unclearBoolean (.int n)
    else .fail .notBoolean (.int n)
  | .float x =>
    match x.trunc? with
    | some n =>
      if !x.isIntegral || n.natAbs ≥ wordLimit then .fail .notBoolean (.float x)
      else if n == 0 then .ok false
      else if n == 1 then .ok true
      else .fail .unclearBoolean (.float x)
    | none => .fail .notBoolean (.float x)
  | .str s =>
    let word := String.ofList (s.toList.map Char.toLower)
    if trueWords.contains word then .ok true
    else if falseWords.contains word then .ok false
    else .fail .unclearBoolean (.str s)
  | v => .fail .notBoolean v

/-- One of some values, each with its name. -/
def oneOf (choices : List (String × α)) : Loader α := fun v =>
  let refuse : Checked α := .fail (.notOneOf (choices.map Prod.fst)) v
  match v with
  | .str s => ((choices.lookup s).map .ok).getD refuse
  | _ => refuse

/-- A list whose items are loaded one by one; their places are their indices. -/
def list (item : Loader α) : Loader (List α)
  | .arr items => .all (items.mapIdx fun i v => (item v).under (toString i))
  | v => .fail .notList v

def object : Loader (List (String × Json))
  | .obj fields => .ok fields
  | v => .fail .notObject v

def nullable (load : Loader α) : Loader (Option α)
  | .null => .ok none
  | v => Checked.map some (load v)

/-! ## Records -/

/-- The value under the name of a part, or else under its other name, with the name used. -/
def part? (fields : List (String × Json)) (name other : String) : Option (String × Json) :=
  let under (key : String) := (Fields.get? fields key).map fun v => (key, v)
  (under name).or (under other)

def required (fields : List (String × Json)) (name other : String) (load : Loader α) :
    Checked α :=
  match part? fields name other with
  | some (key, v) => (load v).under key
  | none => Checked.under name (.fail .missing (.obj fields))

/-- A part with a value to take when it is not there. -/
def optional (fields : List (String × Json)) (name other : String) (load : Loader α)
    (otherwise : α) : Checked α :=
  match part? fields name other with
  | some (key, v) => (load v).under key
  | none => .ok otherwise

/-- A record of a kind, from the fields of an object. -/
def record (kind : String) (load : List (String × Json) → Checked α) : Loader α
  | .obj fields => load fields
  | v => .fail (.notRecord kind) v

@[simp] theorem text_str (s : String) : text (.str s) = .ok s := rfl

@[simp] theorem integer_int (n : Int) : integer (.int n) = .ok n := rfl

@[simp] theorem boolean_bool (b : Bool) : boolean (.bool b) = .ok b := rfl

theorem oneOf_of_lookup {choices : List (String × α)} {s : String} {a : α}
    (h : choices.lookup s = some a) : oneOf choices (.str s) = .ok a := by
  simp [oneOf, h]

end FlexForm.Load
