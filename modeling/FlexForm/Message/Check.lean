import FlexForm.Link.Basic
import FlexForm.Problem
import FlexForm.Text.CharClass

/-! # Checking messages

The rules that a finished message has to meet: an alternative text of limited length, and complete
actions everywhere below its contents.

* `Message.isBlank`: the values that count as no text.
* `Message.actionFlaws`: what is wrong with one action.
* `Message.Walk`: the way through a value, container by container.
* `Message.checkBelow`: the problems of all actions below a value.
* `Message.check`: the problems of a message.
-/

namespace FlexForm.Message
set_option autoImplicit false

/-- Anything but a text with more than white space in it. -/
def isBlank : Option Json → Bool
  | some (.str s) => Text.isAllBlank s
  | _ => true

theorem isBlank_eq_false_iff (v : Option Json) :
    isBlank v = false ↔ ∃ s, v = some (.str s) ∧ Text.isAllBlank s = false := by
  unfold isBlank
  split <;> simp_all

/-! ## Actions -/

def linkFlaw? (link : Option Json) : Option Flaw :=
  if Json.isEmpty link then some .noActionLink
  else
    let scheme := match link with
      | some (.str s) => Link.scheme? s
      | _ => none
    match scheme with
    | none => some .badActionLink
    | some scheme =>
      if scheme != Link.secureScheme then some (.insecureActionLink scheme) else none

/-- The flaws of an action, each with the key that it is about. -/
def actionFlaws (action : List (String × Json)) : List (String × Flaw) :=
  let get := Fields.get? action
  let label := if isBlank (get "label") then [("label", .noActionLabel)] else []
  let companion := match get "type" with
    | some (.str "uri") => (linkFlaw? (get "uri")).toList.map fun flaw => ("uri", flaw)
    | some (.str "message") => if isBlank (get "text") then [("text", .noActionText)] else []
    | some (.str "postback") => if isBlank (get "data") then [("data", .noActionData)] else []
    | _ => []
  label ++ companion

/-- The problems of the action of an object at a path, if it has one. -/
def checkAction (fields : List (String × Json)) (path : String) : List Problem :=
  match Fields.get? fields "action" with
  | some (.obj action) =>
    (actionFlaws action).map fun (key, flaw) => ⟨s!"{path}.action.{key}", flaw, none⟩
  | _ => []

/-! ## The walk -/

/-- A value somewhere in the contents of a message, with its path. -/
structure Spot where
  value : Json
  path : String

/-- The spots right inside, in their order. The action of an object is not one of them. -/
def Spot.inside (spot : Spot) : List Spot :=
  match spot.value with
  | .arr items => items.mapIdx fun n v => ⟨v, s!"{spot.path}[{n}]"⟩
  | .obj fields =>
    (fields.filter fun f => f.1 ≠ "action").map fun f => ⟨f.2, s!"{spot.path}.{f.1}"⟩
  | _ => []

/-- What is wrong at the spot itself. -/
def Spot.problems (spot : Spot) : List Problem :=
  match spot.value with
  | .obj fields => checkAction fields spot.path
  | _ => []

/-- The spots with containers, put on a stack from the last to the first. -/
def Spot.stacked (spots pending : List Spot) : List Spot :=
  spots.reverse.foldl (fun pending spot =>
    if spot.value.isContainer then spot :: pending else pending) pending

/-- A walk visits spots, the first of the pending ones next, and notes the problems. -/
structure Walk where
  pending : List Spot
  problems : List Problem

/-- A visit. The spots right inside the visited one come next. -/
def Walk.turn : Walk → Walk
  | ⟨[], problems⟩ => ⟨[], problems⟩
  | ⟨spot :: pending, problems⟩ =>
    ⟨Spot.stacked spot.inside pending, problems ++ spot.problems⟩

/-! ### Its end -/

mutual

/-- How many values there are in a value, with itself. -/
def weight : Json → Nat
  | .arr items => itemsWeight items + 1
  | .obj fields => fieldsWeight fields + 1
  | .null | .bool _ | .int _ | .float _ | .str _ => 1

def itemsWeight : List Json → Nat
  | [] => 0
  | v :: rest => weight v + itemsWeight rest

def fieldsWeight : List (String × Json) → Nat
  | [] => 0
  | (_, v) :: rest => weight v + fieldsWeight rest

end

/-- How many values there are at some spots and inside of them. -/
def Spot.weights : List Spot → Nat
  | [] => 0
  | spot :: rest => weight spot.value + weights rest

theorem Spot.stacked_cons (spot : Spot) (spots pending : List Spot) :
    stacked (spot :: spots) pending =
      if spot.value.isContainer then spot :: stacked spots pending
      else stacked spots pending := by
  simp only [stacked, List.reverse_cons, List.foldl_append, List.foldl_cons, List.foldl_nil]

theorem Spot.weights_stacked_le (spots pending : List Spot) :
    weights (stacked spots pending) ≤ weights spots + weights pending := by
  induction spots with
  | nil => simp [stacked, weights]
  | cons spot spots ih =>
    rw [stacked_cons]
    split <;> (simp only [weights]; omega)

theorem Spot.weights_items (items : List Json) (place : Nat → String) :
    weights (items.mapIdx fun n v => ⟨v, place n⟩) = itemsWeight items := by
  induction items generalizing place with
  | nil => rfl
  | cons v items ih => rw [List.mapIdx_cons, weights, itemsWeight, ih]

theorem Spot.weights_fields_le (fields : List (String × Json)) (kept : String × Json → Bool)
    (place : String → String) :
    weights ((fields.filter kept).map fun f => ⟨f.2, place f.1⟩) ≤ fieldsWeight fields := by
  induction fields with
  | nil => exact Nat.le_refl _
  | cons f fields ih =>
    rw [List.filter_cons, fieldsWeight]
    split
    · rw [List.map_cons, weights]
      exact Nat.add_le_add_left ih _
    · exact Nat.le_add_left_of_le ih

theorem Spot.weights_inside_lt (spot : Spot) : weights spot.inside < weight spot.value := by
  obtain ⟨v, path⟩ := spot
  cases v with
  | arr items =>
    simp only [inside, weights_items, weight]
    omega
  | obj fields =>
    have hle := weights_fields_le fields (fun f => f.1 ≠ "action") fun key => s!"{path}.{key}"
    simp only [inside, weight]
    omega
  | null | bool | int | float | str =>
    simp only [inside, weights, weight]
    omega

/-- The visited value is left behind, and what is inside of it is less. -/
theorem Walk.weights_turn_lt (spot : Spot) (pending : List Spot) (problems : List Problem) :
    Spot.weights (turn ⟨spot :: pending, problems⟩).pending < Spot.weights (spot :: pending) := by
  have hstacked := Spot.weights_stacked_le spot.inside pending
  have hinside := spot.weights_inside_lt
  simp only [turn, Spot.weights]
  omega

/-- The problems of a whole walk. -/
@[semireducible]
def Walk.finish : Walk → List Problem
  | ⟨[], problems⟩ => problems
  | ⟨spot :: pending, problems⟩ => finish (turn ⟨spot :: pending, problems⟩)
termination_by w => Spot.weights w.pending
decreasing_by exact weights_turn_lt spot pending problems

/-- The problems of all actions below a value. -/
def checkBelow (v : Json) (path : String) : List Problem := Walk.finish ⟨[⟨v, path⟩], []⟩

/-! ## Messages -/

def checkAltText (altText : Option Json) : List Problem :=
  match altText with
  | some (.str s) =>
    if isBlank altText then [⟨"altText", .noAltText, none⟩]
    else if s.length > altTextLimit then [⟨"altText", .longAltText s.length, none⟩]
    else []
  | _ => [⟨"altText", .noAltText, none⟩]

def check : Json → List Problem
  | .obj fields =>
    checkAltText (Fields.get? fields "altText") ++
      checkBelow ((Fields.get? fields "contents").getD .null) "contents"
  | _ => [⟨"altText", .noAltText, none⟩]

theorem check_of_not_object {v : Json} (h : v.isObject = false) :
    check v = [⟨"altText", .noAltText, none⟩] := by
  cases v <;> simp_all [check, Json.isObject]

end FlexForm.Message
