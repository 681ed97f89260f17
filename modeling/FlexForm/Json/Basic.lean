import FlexForm.Number.Binary64
import FlexForm.Json.Fields

/-! # JSON values

The trees of which forms, records and messages consist. Integers have any size and are told apart
from floating point numbers; the fields of an object keep their order.

* `Json`: the type; `Json.typeName`, `Json.isTruthy`, `Json.isContainer`.
* `Json.equiv`: equality by value, where a truth value counts as the integer one or zero.
* `Json.strictEquals`: the same, but a truth value at the top equals a truth value only.
* `Json.get?`: the value of a key, when there is one.
-/

namespace FlexForm
set_option autoImplicit false

inductive Json where
  | null
  | bool (b : Bool)
  | int (n : Int)
  | float (x : Binary64)
  | str (s : String)
  | arr (items : List Json)
  | obj (fields : List (String × Json))
  deriving Inhabited

namespace Json

def typeName : Json → String
  | .null => "NoneType"
  | .bool _ => "bool"
  | .int _ => "int"
  | .float _ => "float"
  | .str _ => "str"
  | .arr _ => "list"
  | .obj _ => "dict"

def isContainer : Json → Bool
  | .arr _ | .obj _ => true
  | _ => false

def isObject : Json → Bool
  | .obj _ => true
  | _ => false

def isNull : Json → Bool
  | .null => true
  | _ => false

/-- Whether a condition on the value holds: all but null, false, zero and the empty ones. -/
def isTruthy : Json → Bool
  | .null => false
  | .bool b => b
  | .int n => n != 0
  | .float x => !x.isZero
  | .str s => s != ""
  | .arr items => !items.isEmpty
  | .obj fields => !fields.isEmpty

def get? : Json → String → Option Json
  | .obj fields, key => Fields.get? fields key
  | _, _ => none

/-- The object with the given pairs, a repeated key keeping its first place and last value. -/
def ofPairs (pairs : List (String × Json)) : Json := .obj (Fields.ofPairs pairs)

/-! ## Nesting -/

mutual

/-- How many containers lie inside one another, with the value itself. -/
def depth : Json → Nat
  | .arr items => depthItems items + 1
  | .obj fields => depthFields fields + 1
  | .null | .bool _ | .int _ | .float _ | .str _ => 1

def depthItems : List Json → Nat
  | [] => 0
  | v :: rest => max (depth v) (depthItems rest)

def depthFields : List (String × Json) → Nat
  | [] => 0
  | (_, v) :: rest => max (depth v) (depthFields rest)

end

theorem depth_lt_of_mem_items {v : Json} {items : List Json} (h : v ∈ items) :
    depth v < depth (.arr items) := by
  induction items with
  | nil => simp at h
  | cons w rest ih =>
    simp only [depth, depthItems] at ih ⊢
    rcases List.mem_cons.1 h with rfl | h
    · omega
    · have := ih h
      omega

theorem depth_lt_of_mem_fields {k : String} {v : Json} {fields : List (String × Json)}
    (h : (k, v) ∈ fields) : depth v < depth (.obj fields) := by
  induction fields with
  | nil => simp at h
  | cons f rest ih =>
    obtain ⟨l, w⟩ := f
    simp only [depth, depthFields] at ih ⊢
    rcases List.mem_cons.1 h with h | h
    · cases h
      omega
    · have := ih h
      omega

/-! ## Equality by value -/

/-- Equality of two values of which not both are lists and not both are objects. -/
def scalarEquiv : Json → Json → Bool
  | .null, .null => true
  | .str a, .str b => a == b
  | .bool a, .bool b => a == b
  | .bool a, .int n | .int n, .bool a => n == if a then 1 else 0
  | .bool a, .float x | .float x, .bool a => x.compareInt? (if a then 1 else 0) == some .eq
  | .int a, .int b => a == b
  | .int n, .float x | .float x, .int n => x.compareInt? n == some .eq
  | .float x, .float y => x.same y
  | _, _ => false

mutual

/-- Equality by value: numbers by size, truth values as one and zero, objects whatever the order of
their keys. -/
def equiv : Json → Json → Bool
  | .arr xs, .arr ys => equivItems xs ys
  | .obj fs, .obj gs => fs.length == gs.length && equivFields fs gs
  | .null, b => scalarEquiv .null b
  | .bool a, b => scalarEquiv (.bool a) b
  | .int a, b => scalarEquiv (.int a) b
  | .float a, b => scalarEquiv (.float a) b
  | .str a, b => scalarEquiv (.str a) b
  | .arr _, _ => false
  | .obj _, _ => false

def equivItems : List Json → List Json → Bool
  | [], [] => true
  | x :: xs, y :: ys => equiv x y && equivItems xs ys
  | _, _ => false

/-- Whether every field on the left has an equal one on the right. -/
def equivFields : List (String × Json) → List (String × Json) → Bool
  | [], _ => true
  | (k, v) :: rest, gs =>
    (match Fields.get? gs k with
      | some w => equiv v w
      | none => false) && equivFields rest gs

end

/-- Equality by value that never takes a truth value for a number at the top. -/
def strictEquals : Json → Json → Bool
  | .bool a, .bool b => a == b
  | .bool _, _ | _, .bool _ => false
  | a, b => equiv a b

/-! ## Absent, empty and blank -/

/-- Empty means absent, null or the empty text. -/
def isEmpty : Option Json → Bool
  | none => true
  | some .null => true
  | some (.str s) => s == ""
  | _ => false

end Json

end FlexForm
