import FlexForm.Json.Finite
import FlexForm.Overlay
import FlexForm.Proofs.Json.Spelling

/-! # Leaves of values

A leaf is a value inside another that is no container, together with the key it stands under.
Merging makes up no leaves and keeps those of the patch, and a value is finite exactly if its leaves
are.

* `leaves`: the leaves of a value.
* `leaves_merge`, `leaves_merge_of_patch`: the leaves of a merged value.
* `isFinite_iff_leaves`: a value with finite leaves is finite.
-/

namespace FlexForm.Json
set_option autoImplicit false

/-! ## Leaves -/

mutual

/-- The values inside that are no containers, each with the key of the field that holds it. -/
def leaves (key : Option String) : Json → List (Option String × Json)
  | .arr items => itemLeaves items
  | .obj fields => fieldLeaves fields
  | .null => [(key, .null)]
  | .bool b => [(key, .bool b)]
  | .int n => [(key, .int n)]
  | .float x => [(key, .float x)]
  | .str s => [(key, .str s)]

def itemLeaves : List Json → List (Option String × Json)
  | [] => []
  | v :: rest => leaves none v ++ itemLeaves rest

def fieldLeaves : List (String × Json) → List (Option String × Json)
  | [] => []
  | (k, v) :: rest => leaves (some k) v ++ fieldLeaves rest

end

section
variable {leaf : Option String × Json}

theorem mem_fieldLeaves_cons {k : String} {v : Json} {rest : List (String × Json)} :
    leaf ∈ fieldLeaves ((k, v) :: rest) ↔ leaf ∈ leaves (some k) v ∨ leaf ∈ fieldLeaves rest := by
  rw [fieldLeaves, List.mem_append]

/-! ## Fields -/

theorem mem_fieldLeaves_of_get? {fields : List (String × Json)} {k : String} {v : Json}
    (hv : Fields.get? fields k = some v) (h : leaf ∈ leaves (some k) v) :
    leaf ∈ fieldLeaves fields := by
  induction fields with
  | nil => cases hv
  | cons f rest ih =>
    obtain ⟨l, w⟩ := f
    rw [mem_fieldLeaves_cons]
    rw [Fields.get?_cons] at hv
    split at hv
    · rename_i hl
      cases hv
      exact .inl (hl ▸ h)
    · exact .inr (ih hv)

theorem mem_fieldLeaves_insert {fields : List (String × Json)} {k : String} {v : Json}
    (h : leaf ∈ fieldLeaves (Fields.insert fields k v)) :
    leaf ∈ leaves (some k) v ∨ leaf ∈ fieldLeaves fields := by
  induction fields with
  | nil => exact mem_fieldLeaves_cons.1 h
  | cons f rest ih =>
    obtain ⟨l, w⟩ := f
    rw [mem_fieldLeaves_cons]
    rw [Fields.insert] at h
    split at h
    · rename_i hl
      exact (mem_fieldLeaves_cons.1 (hl ▸ h)).imp_right .inr
    · rcases mem_fieldLeaves_cons.1 h with h | h
      · exact .inr (.inl h)
      · exact (ih h).imp_right .inr

theorem mem_fieldLeaves_erase {fields : List (String × Json)} {k : String}
    (h : leaf ∈ fieldLeaves (Fields.erase fields k)) : leaf ∈ fieldLeaves fields := by
  induction fields with
  | nil => exact h
  | cons f rest ih =>
    obtain ⟨l, w⟩ := f
    rw [mem_fieldLeaves_cons]
    rw [Fields.erase_cons] at h
    by_cases hl : l = k
    · rw [if_pos hl] at h
      exact .inr (ih h)
    · rw [if_neg hl] at h
      exact (mem_fieldLeaves_cons.1 h).imp_right ih

theorem mem_leaves_of_get? {key : Option String} {v w : Json} {k : String} (hw : v.get? k = some w)
    (h : leaf ∈ leaves (some k) w) : leaf ∈ leaves key v := by
  cases v with
  | obj fields =>
    rw [leaves]
    exact mem_fieldLeaves_of_get? hw h
  | null | bool | int | float | str | arr => cases hw

/-! ## Merging -/

mutual

/-- Merging makes up no leaves. -/
theorem leaves_merge {key : Option String} {base : Json} (patch : Json)
    (h : leaf ∈ leaves key (merge base patch)) :
    leaf ∈ leaves key base ∨ leaf ∈ leaves key patch := by
  match patch with
  | .obj fields =>
    cases base with
    | obj before =>
      rw [merge, leaves] at h
      rw [leaves, leaves]
      exact fieldLeaves_mergeFields fields h
    | null | bool | int | float | str | arr => exact .inr h
  | .null | .bool _ | .int _ | .float _ | .str _ | .arr _ => exact .inr h

theorem fieldLeaves_mergeFields {before : List (String × Json)} (fields : List (String × Json))
    (h : leaf ∈ fieldLeaves (mergeFields before fields)) :
    leaf ∈ fieldLeaves before ∨ leaf ∈ fieldLeaves fields := by
  match fields with
  | [] => exact .inl h
  | (k, v) :: rest =>
    rw [mergeFields] at h
    rw [mem_fieldLeaves_cons]
    rcases fieldLeaves_mergeFields rest h with h | h
    · rcases mem_fieldLeaves_insert h with h | h
      · cases hold : Fields.get? before k with
        | none =>
          rw [hold] at h
          exact .inr (.inl h)
        | some old =>
          rw [hold] at h
          rcases leaves_merge v h with h | h
          · exact .inl (mem_fieldLeaves_of_get? hold h)
          · exact .inr (.inl h)
      · exact .inl h
    · exact .inr (.inr h)

end

theorem get?_mergeFields_of_not_has {before : List (String × Json)} (fields : List (String × Json))
    {k : String} (hk : Fields.has fields k = false) :
    Fields.get? (mergeFields before fields) k = Fields.get? before k := by
  induction fields generalizing before with
  | nil => rfl
  | cons f rest ih =>
    obtain ⟨l, v⟩ := f
    have hl : l ≠ k := by
      rintro rfl
      simp [Fields.has, Fields.get?_cons] at hk
    have hrest : Fields.has rest k = false := by
      simpa [Fields.has, Fields.get?_cons, hl] using hk
    rw [mergeFields, ih hrest, Fields.get?_insert_of_ne _ _ hl]

mutual

/-- Merging loses no leaf of the patch. -/
theorem leaves_merge_of_patch {key : Option String} {base : Json} (patch : Json)
    (hkeys : hasDistinctKeys patch = true) (h : leaf ∈ leaves key patch) :
    leaf ∈ leaves key (merge base patch) := by
  match patch with
  | .obj fields =>
    cases base with
    | obj before =>
      rw [hasDistinctKeys] at hkeys
      rw [merge, leaves]
      exact fieldLeaves_mergeFields_of_patch fields hkeys h
    | null | bool | int | float | str | arr => exact h
  | .null | .bool _ | .int _ | .float _ | .str _ | .arr _ => exact h

theorem fieldLeaves_mergeFields_of_patch {before : List (String × Json)}
    (fields : List (String × Json)) (hkeys : fieldsDistinct fields = true)
    (h : leaf ∈ fieldLeaves fields) : leaf ∈ fieldLeaves (mergeFields before fields) := by
  match fields with
  | [] => cases h
  | (k, v) :: rest =>
    simp only [fieldsDistinct, Bool.and_eq_true, Bool.not_eq_true'] at hkeys
    obtain ⟨⟨hk, hv⟩, hrest⟩ := hkeys
    rw [mergeFields]
    rcases mem_fieldLeaves_cons.1 h with h | h
    · refine mem_fieldLeaves_of_get? (get?_mergeFields_of_not_has rest hk ▸
        Fields.get?_insert_self before k _) ?_
      cases Fields.get? before k with
      | none => exact h
      | some old => exact leaves_merge_of_patch v hv h
    · exact fieldLeaves_mergeFields_of_patch rest hrest h

end

end

/-! ## Finite numbers -/

mutual

/-- A value is finite exactly if its leaves are. -/
theorem isFinite_iff_leaves (key : Option String) (v : Json) :
    isFinite v = true ↔ ∀ leaf ∈ leaves key v, leaf.2.isFinite = true := by
  match v with
  | .null | .bool _ | .int _ | .float _ | .str _ => simp [leaves]
  | .arr items =>
    rw [isFinite, leaves]
    exact areFinite_iff_leaves items
  | .obj fields =>
    rw [isFinite, leaves]
    exact haveFinite_iff_leaves fields

theorem areFinite_iff_leaves (items : List Json) :
    areFinite items = true ↔ ∀ leaf ∈ itemLeaves items, leaf.2.isFinite = true := by
  match items with
  | [] => simp [areFinite, itemLeaves]
  | v :: rest =>
    rw [areFinite, itemLeaves, Bool.and_eq_true, List.forall_mem_append,
      isFinite_iff_leaves none v, areFinite_iff_leaves rest]

theorem haveFinite_iff_leaves (fields : List (String × Json)) :
    haveFinite fields = true ↔ ∀ leaf ∈ fieldLeaves fields, leaf.2.isFinite = true := by
  match fields with
  | [] => simp [haveFinite, fieldLeaves]
  | (k, v) :: rest =>
    rw [haveFinite, fieldLeaves, Bool.and_eq_true, List.forall_mem_append,
      isFinite_iff_leaves (some k) v, haveFinite_iff_leaves rest]

end

theorem isFinite_of_leaves {v w : Json} (h : ∀ leaf ∈ leaves none w, leaf ∈ leaves none v)
    (hv : isFinite v = true) : isFinite w = true :=
  (isFinite_iff_leaves none w).2 fun leaf hleaf => (isFinite_iff_leaves none v).1 hv leaf (h leaf hleaf)

end FlexForm.Json
