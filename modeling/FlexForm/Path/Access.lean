import FlexForm.Json.Basic
import FlexForm.Path.Basic

/-! # Reading and writing at a path

A path leads from a value through keys of objects and indices of lists.

* `Json.at?`, `Json.follow?`: the value at a path; absent when some step leads nowhere.
* `Json.assign`: the value after writing at a path, with the containers that had to be made.
* `PathFault`: why reading or writing stops.
-/

namespace FlexForm
set_option autoImplicit false

-- Powers are the built-in ones, also where a library of algebra brings others.
attribute [local instance (high)] instPowNat

/-- Why reading or writing at a path stops. -/
inductive PathFault where
  /-- A list takes indices only. -/
  | keyOnList (key : String)
  | index (fault : Path.IndexFault)
  /-- A value of this kind holds no others, so nothing is found inside it. -/
  | noInside (kind : String)
  /-- A value of this kind holds no others, so nothing is written into it. -/
  | noWriting (kind : String)
  /-- A list cannot grow so long. -/
  | tooFar
  /-- The number is beyond all indices. -/
  | noIndex
  deriving DecidableEq, Inhabited

def PathFault.message : PathFault → String
  | .keyOnList key => s!"Cannot set key {Text.quoted key} on a list"
  | .index fault => fault.message
  | .noInside kind => s!"'{kind}' object has no attribute 'get'"
  | .noWriting kind => s!"'{kind}' object does not support item assignment"
  | .tooFar => ""
  | .noIndex => "cannot fit 'int' into an index-sized integer"

namespace Path

/-- The greatest length to which a list grows. -/
def maxLength : Nat := 2 ^ (31 : Nat)

/-- The bound above which no list grows by a number of items. -/
def growthLimit : Nat := 2 ^ (63 : Nat)

/-- Why there is no place for an item at an index of a list with so many items. -/
def growthFault? (count n : Nat) : Option PathFault :=
  if n < maxLength then none
  else some (if n + 1 - count < growthLimit then .tooFar else .noIndex)

/-- The value of a segment of digits, as an index. -/
def position (segment : String) : Except PathFault Nat :=
  match index segment with
  | .ok n => .ok n
  | .error e => .error (.index e)

end Path

namespace Json

/-! ## Reading -/

/-- The value inside `v` to which one segment leads. -/
def step? (v : Json) (segment : String) : Except PathFault (Option Json) :=
  match v with
  | .obj fields => .ok (Fields.get? fields segment)
  | .arr items =>
    if Path.isIndex segment then do
      let n ← Path.position segment
      pure items[n]?
    else .ok none
  | _ => .ok none

/-- The value to which the segments lead, or `none` when a step leads nowhere. -/
def follow? (v : Json) : List String → Except PathFault (Option Json)
  | [] => .ok (some v)
  | segment :: rest => do
    match ← v.step? segment with
    | some inside => inside.follow? rest
    | none => pure none

def at? (v : Json) (path : String) : Except PathFault (Option Json) :=
  v.follow? (Path.segments path)

/-! ## Writing -/

/-- The list with `value` at the index, filled up with nulls when it is too short. -/
def setItem (items : List Json) (n : Nat) (value : Json) : List Json :=
  if n < items.length then items.set n value
  else items ++ List.replicate (n - items.length) .null ++ [value]

/-- The list as an object whose keys are the indices. -/
def keyedByIndex (items : List Json) : Json :=
  .obj (items.mapIdx fun n v => (toString n, v))

/-- The container to write into when the next segment is `next`: what is there if it can take that
segment, and a new or converted one otherwise. -/
def readyFor (next : String) (child : Option Json) : Json :=
  match child with
  | some (.obj fields) => .obj fields
  | some (.arr items) => if Path.isIndex next then .arr items else keyedByIndex items
  | _ => if Path.isIndex next then .arr [] else .obj []

/-- Writes at the segments. A failing call gives the value as it is left: the containers made
before the failure stay. -/
def assignAt (value : Json) : List String → Json → Json × Option PathFault
  | [], v => (v, none)
  | [segment], v =>
    match v with
    | .obj fields => (.obj (Fields.insert fields segment value), none)
    | .arr items =>
      match Path.position segment with
      | .error e => (v, some e)
      | .ok n =>
        match Path.growthFault? items.length n with
        | some e => (v, some e)
        | none => (.arr (setItem items n value), none)
    | _ => (v, some (.noWriting v.typeName))
  | segment :: next :: rest, v =>
    match v with
    | .obj fields =>
      let (child, fault) :=
        assignAt value (next :: rest) (readyFor next (Fields.get? fields segment))
      (.obj (Fields.insert fields segment child), fault)
    | .arr items =>
      match Path.position segment with
      | .error e => (v, some e)
      | .ok n =>
        match Path.growthFault? items.length n with
        | some e => (v, some e)
        | none =>
          let (child, fault) := assignAt value (next :: rest) (readyFor next items[n]?)
          (.arr (setItem items n child), fault)
    | _ => (v, some (.noInside v.typeName))

/-- The value after writing at a written path, and why that failed if it did. -/
def assign (v : Json) (path : String) (value : Json) : Json × Option PathFault :=
  let segments := Path.segments path
  match v, segments with
  | .arr _, first :: _ =>
    if Path.isIndex first then assignAt value segments v else (v, some (.keyOnList first))
  | _, _ => assignAt value segments v

/-! ## Small facts -/

theorem follow?_cons (v : Json) (segment : String) (rest : List String) :
    v.follow? (segment :: rest) = (do
      match ← v.step? segment with
      | some inside => inside.follow? rest
      | none => pure none) := rfl

theorem getElem?_setItem_self (items : List Json) (n : Nat) (value : Json) :
    (setItem items n value)[n]? = some value := by
  unfold setItem
  split
  · simp [*]
  · rename_i h
    have hle : items.length ≤ n := Nat.le_of_not_lt h
    have hlen : (items ++ List.replicate (n - items.length) Json.null).length = n := by
      simp only [List.length_append, List.length_replicate]
      omega
    rw [List.getElem?_append_right (Nat.le_of_eq hlen), hlen]
    simp

end Json

end FlexForm
