import FlexForm.Json.Reader

/-! # Overlays

An overlay is an object that is merged into another value: key by key where both are objects, and
in place of what was there otherwise. A message takes overlays from markers inside it and one from
the form data.

* `Json.merge`: the merged value.
* `Overlay.expand`: a message with all its markers expanded, as far as their nesting allows.
* `Overlay.finish`: a message with an overlay for the whole of it.
-/

namespace FlexForm
set_option autoImplicit false

namespace Json

mutual

/-- `patch` merged into `base`: objects key by key, the patch winning; all else is replaced. -/
def merge (base : Json) : Json → Json
  | .obj patch =>
    match base with
    | .obj fields => .obj (mergeFields fields patch)
    | _ => .obj patch
  | patch => patch

def mergeFields (fields : List (String × Json)) : List (String × Json) → List (String × Json)
  | [] => fields
  | (key, value) :: rest =>
    let merged := match Fields.get? fields key with
      | some old => merge old value
      | none => value
    mergeFields (Fields.insert fields key merged) rest

end

theorem merge_of_not_object (base : Json) {patch : Json} (h : patch.isObject = false) :
    merge base patch = patch := by
  cases patch <;> simp_all [merge, isObject]

end Json

namespace Overlay

/-- The key under which an object carries an overlay for itself. -/
def marker : String := "__patch"

/-- What a marker holds: an object, or a JSON text of one. Other values are no overlay. -/
def patchOf? (v : Json) : Option (List (String × Json)) :=
  match Json.readMaybe v with
  | .obj fields => some fields
  | _ => none

/-- The nesting of the overlays that bring in overlays exceeds the limit. -/
structure TooDeep where
  limit : Int
  deriving DecidableEq, Inhabited

def TooDeep.message (fault : TooDeep) : String :=
  s!"Inline {marker} nesting exceeds {fault.limit} levels"

mutual

/-- Expands the markers of a value, where `inner` expands an object that an overlay was merged
into. -/
def expandWith (inner : Json → Except TooDeep Json) : Json → Except TooDeep Json
  | .arr items => do
    let items ← expandItems inner items
    pure (.arr items)
  | .obj fields =>
    match (Fields.get? fields marker).bind patchOf? with
    | some patch => inner (Json.merge (.obj (Fields.erase fields marker)) (.obj patch))
    | none => do
      let fields ← expandFields inner fields
      pure (.obj fields)
  | v => pure v

def expandItems (inner : Json → Except TooDeep Json) : List Json → Except TooDeep (List Json)
  | [] => pure []
  | v :: rest => do
    let v ← expandWith inner v
    let rest ← expandItems inner rest
    pure (v :: rest)

/-- Expands the fields other than the marker, which is dropped. -/
def expandFields (inner : Json → Except TooDeep Json) :
    List (String × Json) → Except TooDeep (List (String × Json))
  | [] => pure []
  | (key, v) :: rest =>
    if key = marker then expandFields inner rest
    else do
      let v ← expandWith inner v
      let rest ← expandFields inner rest
      pure ((key, v) :: rest)

end

/-- Expands the markers of a value when overlays may bring in overlays for so many levels. -/
def expandLevels (limit : Int) : Nat → Json → Except TooDeep Json
  | 0 => expandWith fun _ => .error ⟨limit⟩
  | levels + 1 => expandWith (expandLevels limit levels)

/-- Expands every marker of a value; an overlay at a level beyond the limit is a fault. -/
def expand (limit : Int) (v : Json) : Except TooDeep Json := expandLevels limit limit.toNat v

/-- The message with an overlay for the whole of it: an object or a JSON text of one. Messages that
are no objects stay as they are. -/
def finish (message patch : Json) : Json :=
  match patchOf? patch, message with
  | some fields, .obj _ => message.merge (.obj fields)
  | _, _ => message

end Overlay

end FlexForm
