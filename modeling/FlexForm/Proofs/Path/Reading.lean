import FlexForm.Path.Access
import FlexForm.Proofs.Json.Reading

/-! # Where reading at a path stops

Keys and indices lead somewhere or nowhere. What stops the reading is a segment of digits that has
no value as an index, and only if it meets a list. The first segment meets whatever is read from;
an object takes it as a key, so that it does no harm there.

* `Path.isReadable`, `Path.isOpen`, `Path.isOpenInside`: segments and paths that stop nowhere.
* `Json.at?_error`, `Json.at?_obj_error`: a path that stops is not open.
* `Json.isOpen_of_at?`, `Json.isOpenInside_of_at?`: each other path stops in some value, or some
  object.
-/

namespace FlexForm
set_option autoImplicit false

namespace Path

/-- The segment is no index, or one with a value. -/
def isReadable (segment : String) : Bool := !isIndex segment || (index segment).isOk

def isOpen (path : String) : Bool := (segments path).all isReadable

/-- The path is open behind its first segment. -/
def isOpenInside (path : String) : Bool := (segments path).tail.all isReadable

end Path

namespace Json

open FlexForm.Path

variable {v : Json} {fault : PathFault} {segment path : String} {rest : List String}

/-! ## Faults -/

theorem position_error (h : position segment = .error fault) : ∃ e, fault = .index e := by
  unfold position at h
  split at h
  next => cases h
  next e _ =>
    cases h
    exact ⟨e, rfl⟩

theorem position_isOk : (position segment).isOk = (index segment).isOk := by
  unfold position
  cases index segment <;> rfl

theorem step?_error (h : v.step? segment = .error fault) :
    isReadable segment = false ∧ ∃ e, fault = .index e := by
  unfold step? at h
  split at h
  next => cases h
  next =>
    split at h
    next hindex =>
      rcases bind_eq_error_iff.1 h with h | ⟨n, -, h⟩
      · refine ⟨?_, position_error h⟩
        rw [isReadable, hindex, ← position_isOk, h]
        rfl
      · cases h
    next => cases h
  next => cases h

theorem follow?_error (h : v.follow? rest = .error fault) :
    rest.all isReadable = false ∧ ∃ e, fault = .index e := by
  induction rest generalizing v with
  | nil => cases h
  | cons segment rest ih =>
    rw [follow?_cons] at h
    rw [List.all_cons, Bool.and_eq_false_iff]
    rcases bind_eq_error_iff.1 h with h | ⟨found, -, h⟩
    · obtain ⟨hsegment, hfault⟩ := step?_error h
      exact ⟨.inl hsegment, hfault⟩
    · cases found with
      | none => cases h
      | some inside =>
        obtain ⟨hrest, hfault⟩ := ih h
        exact ⟨.inr hrest, hfault⟩

theorem at?_error (h : v.at? path = .error fault) :
    isOpen path = false ∧ ∃ e, fault = .index e :=
  follow?_error h

theorem at?_obj_error {fields : List (String × Json)} (h : (obj fields).at? path = .error fault) :
    isOpenInside path = false ∧ ∃ e, fault = .index e := by
  unfold at? at h
  unfold isOpenInside
  obtain ⟨first, rest, hsegments⟩ := List.exists_cons_of_ne_nil (segments_ne_nil path)
  rw [hsegments, follow?_cons] at h
  rw [hsegments, List.tail_cons]
  -- An object looks its keys up, so the first segment is no index here.
  rcases bind_eq_error_iff.1 h with h | ⟨found, -, h⟩
  · cases h
  · cases found with
    | none => cases h
    | some inside => exact follow?_error h

/-! ## Values in which a path stops -/

/-- The value with another one at the end of a path of keys. -/
def nest (v : Json) : List String → Json
  | [] => v
  | segment :: rest => .obj [(segment, nest v rest)]

theorem follow?_single : (obj [(segment, v)]).follow? (segment :: rest) = v.follow? rest := by
  rw [follow?_cons, step?, Fields.get?_cons, if_pos rfl]
  rfl

theorem follow?_nest : (nest v rest).follow? rest = .ok (some v) := by
  induction rest with
  | nil => rfl
  | cons segment rest ih => rw [nest, follow?_single, ih]

/-- Every value stands at every path of some object. -/
theorem exists_at?_eq (path : String) (v : Json) :
    ∃ fields, (obj fields).at? path = .ok (some v) := by
  obtain ⟨first, rest, hsegments⟩ := List.exists_cons_of_ne_nil (segments_ne_nil path)
  refine ⟨[(first, nest v rest)], ?_⟩
  rw [at?, hsegments, follow?_single, follow?_nest]

/-- Keys that lead to a list for the first segment that has no value as an index. -/
def blocking : List String → Json
  | [] => .null
  | segment :: rest => if isReadable segment then .obj [(segment, blocking rest)] else .arr []

theorem step?_blocking (h : isReadable segment = false) :
    ∃ fault, (arr []).step? segment = .error fault := by
  simp only [isReadable, Bool.or_eq_false_iff, Bool.not_eq_false'] at h
  obtain ⟨hindex, hvalue⟩ := h
  rw [← position_isOk] at hvalue
  rw [step?, if_pos hindex]
  cases hposition : position segment with
  | error fault => exact ⟨fault, rfl⟩
  | ok n =>
    rw [hposition] at hvalue
    cases hvalue

theorem follow?_blocking (h : rest.all isReadable = false) :
    ∃ fault, (blocking rest).follow? rest = .error fault := by
  induction rest with
  | nil => cases h
  | cons segment rest ih =>
    rw [blocking]
    cases hsegment : isReadable segment with
    | true =>
      rw [List.all_cons, hsegment, Bool.true_and] at h
      rw [if_pos rfl, follow?_single]
      exact ih h
    | false =>
      obtain ⟨fault, hfault⟩ := step?_blocking hsegment
      rw [if_neg Bool.false_ne_true, follow?_cons, hfault]
      exact ⟨fault, rfl⟩

/-- A path is open if it stops in no value. -/
theorem isOpen_of_at? (h : ∀ v : Json, (v.at? path).isOk = true) : isOpen path = true := by
  by_contra hopen
  obtain ⟨fault, hfault⟩ := follow?_blocking (Bool.eq_false_iff.2 hopen)
  have hok := h (blocking (segments path))
  rw [at?, hfault] at hok
  cases hok

theorem isOpenInside_of_at? (h : ∀ fields, ((obj fields).at? path).isOk = true) :
    isOpenInside path = true := by
  by_contra hopen
  obtain ⟨first, rest, hsegments⟩ := List.exists_cons_of_ne_nil (segments_ne_nil path)
  rw [isOpenInside, hsegments, List.tail_cons] at hopen
  obtain ⟨fault, hfault⟩ := follow?_blocking (Bool.eq_false_iff.2 hopen)
  have hok := h [(first, blocking rest)]
  rw [at?, hsegments, follow?_single, hfault] at hok
  cases hok

end Json

end FlexForm
