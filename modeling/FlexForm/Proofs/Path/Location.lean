import FlexForm.Proofs.Path.Reading
import FlexForm.Proofs.Path.Segments

/-! # Reading on

A path that goes on behind another one leads on from what stands there. An index of a list can be
read as long as it has not too many digits, which holds in all lists that are no longer than lists
can grow.

* `Json.follow?_append`: segments behind segments.
* `Json.isIndexable`: the values with lists of bounded length.
* `Json.at?_item`, `Json.at?_dot`: paths of items, and of what is inside of them.
-/

namespace FlexForm.Json
set_option autoImplicit false

open FlexForm.Path

variable {data item found v w : Json} {items : List Json} {segment path key : String}
  {rest more : List String}

/-! ## Steps -/

theorem step?_arr {items : List Json} {n : ℕ} (hindex : isIndex segment = true)
    (hn : position segment = .ok n) : (arr items).step? segment = .ok items[n]? := by
  rw [step?, if_pos hindex, hn]
  rfl

theorem step?_arr_eq_some {items : List Json} (h : (arr items).step? segment = .ok (some found)) :
    isIndex segment = true ∧ ∃ n, position segment = .ok n ∧ items[n]? = some found := by
  rw [step?] at h
  split at h
  next hindex =>
    obtain ⟨n, hn, h⟩ := exists_of_bind_ok h
    exact ⟨hindex, n, hn, Except.ok.inj h⟩
  next => cases h

theorem follow?_of_step (h : v.step? segment = .ok (some w)) :
    v.follow? (segment :: rest) = w.follow? rest := by
  rw [follow?_cons, h]
  rfl

theorem exists_step_of_follow? (h : v.follow? (segment :: rest) = .ok (some found)) :
    ∃ w, v.step? segment = .ok (some w) ∧ w.follow? rest = .ok (some found) := by
  rw [follow?_cons] at h
  obtain ⟨inside, hstep, h⟩ := exists_of_bind_ok h
  cases inside with
  | none => cases h
  | some w => exact ⟨w, hstep, h⟩

theorem follow?_append (h : v.follow? rest = .ok (some w)) :
    v.follow? (rest ++ more) = w.follow? more := by
  induction rest generalizing v with
  | nil =>
    cases h
    rfl
  | cons segment rest ih =>
    obtain ⟨inside, hstep, hinside⟩ := exists_step_of_follow? h
    rw [List.cons_append, follow?_of_step hstep, ih hinside]

/-! ## Lists of bounded length -/

mutual

/-- No list in the value is longer than lists can grow. -/
def isIndexable : Json → Bool
  | .arr items => decide (items.length ≤ growthLimit) && areIndexable items
  | .obj fields => haveIndexable fields
  | .null | .bool _ | .int _ | .float _ | .str _ => true

def areIndexable : List Json → Bool
  | [] => true
  | v :: rest => isIndexable v && areIndexable rest

def haveIndexable : List (String × Json) → Bool
  | [] => true
  | (_, v) :: rest => isIndexable v && haveIndexable rest

end

theorem isIndexable_of_mem (h : areIndexable items = true) (hmem : v ∈ items) :
    v.isIndexable = true := by
  induction items with
  | nil => cases hmem
  | cons first items ih =>
    rw [areIndexable, Bool.and_eq_true] at h
    rcases List.mem_cons.1 hmem with rfl | hmem
    · exact h.1
    · exact ih h.2 hmem

theorem isIndexable_of_get? {fields : List (String × Json)} (h : haveIndexable fields = true)
    (hget : Fields.get? fields key = some v) : v.isIndexable = true := by
  induction fields with
  | nil => cases hget
  | cons field fields ih =>
    obtain ⟨k, first⟩ := field
    rw [haveIndexable, Bool.and_eq_true] at h
    rw [Fields.get?_cons] at hget
    split at hget
    · cases hget
      exact h.1
    · exact ih h.2 hget

theorem isIndexable_of_step? (h : v.isIndexable = true) (hstep : v.step? key = .ok (some w)) :
    w.isIndexable = true := by
  cases v with
  | obj fields => exact isIndexable_of_get? h (Except.ok.inj hstep)
  | arr items =>
    obtain ⟨-, n, -, hitem⟩ := step?_arr_eq_some hstep
    rw [isIndexable, Bool.and_eq_true] at h
    exact isIndexable_of_mem h.2 (List.mem_of_getElem? hitem)
  | null | bool | int | float | str => cases hstep

theorem isIndexable_of_follow? (h : v.isIndexable = true)
    (hfollow : v.follow? rest = .ok (some w)) : w.isIndexable = true := by
  induction rest generalizing v with
  | nil =>
    cases hfollow
    exact h
  | cons segment rest ih =>
    obtain ⟨inside, hstep, hinside⟩ := exists_step_of_follow? hfollow
    exact ih (isIndexable_of_step? h hstep) hinside

/-! ## Paths that go on -/

/-- The path of an item of a list leads to it. -/
theorem at?_item {n : ℕ} (h : data.at? path = .ok (some (.arr items)))
    (hdata : data.isIndexable = true) (hitem : items[n]? = some item) :
    data.at? s!"{path}[{n}]" = .ok (some item) := by
  have hlist := isIndexable_of_follow? hdata h
  rw [isIndexable, Bool.and_eq_true, decide_eq_true_eq] at hlist
  have hlt : n < growthLimit := (List.getElem?_eq_some_iff.1 hitem).1.trans_le hlist.1
  have hposition : position (toString n) = .ok n := by rw [position, index_toString hlt]
  rw [at?, segments_item, follow?_append h,
    follow?_of_step ((step?_arr (isIndex_toString n) hposition).trans (congrArg _ hitem))]
  rfl

/-- Behind a dot, reading goes on with what stands at the path. -/
theorem at?_dot (h : data.at? path = .ok (some item)) :
    data.at? s!"{path}.{key}" = item.at? key := by
  rw [at?, segments_dot, follow?_append h, at?]

end FlexForm.Json
