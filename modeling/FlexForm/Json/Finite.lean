import FlexForm.Json.Basic

/-! # Finite numbers

Strict JSON has no text for a number that is not finite. Such numbers are looked for, or null takes
their place.

* `Json.isFinite`: whether every number in a value is finite.
* `Json.withNulls`: the value with null for the numbers that are not; `isFinite_withNulls` and
  `withNulls_of_isFinite` say that this is all it changes.
-/

namespace FlexForm.Json
set_option autoImplicit false

/-! ## Looking for them -/

mutual

def isFinite : Json → Bool
  | .float x => x.isFinite
  | .arr items => areFinite items
  | .obj fields => haveFinite fields
  | .null | .bool _ | .int _ | .str _ => true

def areFinite : List Json → Bool
  | [] => true
  | v :: rest => isFinite v && areFinite rest

def haveFinite : List (String × Json) → Bool
  | [] => true
  | (_, v) :: rest => isFinite v && haveFinite rest

end

/-! ## Replacing them -/

mutual

/-- The value with null in place of numbers that are not finite. -/
def withNulls : Json → Json
  | .float x => if x.isFinite then .float x else .null
  | .arr items => .arr (itemsWithNulls items)
  | .obj fields => .obj (fieldsWithNulls fields)
  | .null => .null
  | .bool b => .bool b
  | .int n => .int n
  | .str s => .str s

def itemsWithNulls : List Json → List Json
  | [] => []
  | v :: rest => withNulls v :: itemsWithNulls rest

def fieldsWithNulls : List (String × Json) → List (String × Json)
  | [] => []
  | (key, v) :: rest => (key, withNulls v) :: fieldsWithNulls rest

end

mutual

theorem isFinite_withNulls (v : Json) : isFinite (withNulls v) = true := by
  cases v with
  | float x => by_cases h : x.isFinite <;> simp [withNulls, isFinite, h]
  | arr items => simpa [withNulls, isFinite] using areFinite_itemsWithNulls items
  | obj fields => simpa [withNulls, isFinite] using haveFinite_fieldsWithNulls fields
  | null | bool | int | str => simp [withNulls, isFinite]

theorem areFinite_itemsWithNulls (items : List Json) :
    areFinite (itemsWithNulls items) = true := by
  match items with
  | [] => rfl
  | v :: rest =>
    simp [itemsWithNulls, areFinite, isFinite_withNulls v, areFinite_itemsWithNulls rest]

theorem haveFinite_fieldsWithNulls (fields : List (String × Json)) :
    haveFinite (fieldsWithNulls fields) = true := by
  match fields with
  | [] => rfl
  | (key, v) :: rest =>
    simp [fieldsWithNulls, haveFinite, isFinite_withNulls v, haveFinite_fieldsWithNulls rest]

end

mutual

theorem withNulls_of_isFinite (v : Json) (h : isFinite v = true) : withNulls v = v := by
  cases v with
  | float x => simp_all [withNulls, isFinite]
  | arr items => simp [withNulls, itemsWithNulls_of_areFinite items (by simpa [isFinite] using h)]
  | obj fields =>
    simp [withNulls, fieldsWithNulls_of_haveFinite fields (by simpa [isFinite] using h)]
  | null | bool | int | str => simp [withNulls]

theorem itemsWithNulls_of_areFinite (items : List Json) (h : areFinite items = true) :
    itemsWithNulls items = items := by
  match items with
  | [] => rfl
  | v :: rest =>
    simp only [areFinite, Bool.and_eq_true] at h
    simp [itemsWithNulls, withNulls_of_isFinite v h.1, itemsWithNulls_of_areFinite rest h.2]

theorem fieldsWithNulls_of_haveFinite (fields : List (String × Json))
    (h : haveFinite fields = true) : fieldsWithNulls fields = fields := by
  match fields with
  | [] => rfl
  | (key, v) :: rest =>
    simp only [haveFinite, Bool.and_eq_true] at h
    simp [fieldsWithNulls, withNulls_of_isFinite v h.1, fieldsWithNulls_of_haveFinite rest h.2]

end

end FlexForm.Json
