import FlexForm.Overlay
import FlexForm.Proofs.Json.Spelling
import FlexForm.Proofs.Steps

/-! # Values without markers

A value in which no object has a key at any depth stays so when a value without that key is merged
into it, and expanding overlays leaves a value without markers alone.

* `lacksKey`: no object inside has the key.
* `lacksKey_merge`: merging brings in no new keys.
* `expandWith_arr_eq_ok_iff`, `expandWith_obj_eq_ok_iff`: what a value is expanded to.
* `expand_of_lacksKey`: without markers nothing is expanded.
-/

namespace FlexForm
set_option autoImplicit false

namespace Json

/-! ## Keys at any depth -/

mutual

/-- Whether no object inside has the key. -/
def lacksKey (key : String) : Json → Bool
  | .arr items => itemsLackKey key items
  | .obj fields => fieldsLackKey key fields
  | .null | .bool _ | .int _ | .float _ | .str _ => true

def itemsLackKey (key : String) : List Json → Bool
  | [] => true
  | v :: rest => lacksKey key v && itemsLackKey key rest

def fieldsLackKey (key : String) : List (String × Json) → Bool
  | [] => true
  | (k, v) :: rest => k != key && lacksKey key v && fieldsLackKey key rest

end

section
variable {key : String}

theorem fieldsLackKey_cons {k : String} {v : Json} {rest : List (String × Json)} :
    fieldsLackKey key ((k, v) :: rest) = true ↔
      k ≠ key ∧ lacksKey key v = true ∧ fieldsLackKey key rest = true := by
  simp [fieldsLackKey, and_assoc]

theorem fieldsLackKey_append {fields more : List (String × Json)} :
    fieldsLackKey key (fields ++ more) = true ↔
      fieldsLackKey key fields = true ∧ fieldsLackKey key more = true := by
  induction fields with
  | nil => simp [fieldsLackKey]
  | cons f rest ih =>
    obtain ⟨k, v⟩ := f
    rw [List.cons_append, fieldsLackKey_cons, fieldsLackKey_cons, ih, and_assoc, and_assoc]

theorem get?_of_fieldsLackKey {fields : List (String × Json)}
    (h : fieldsLackKey key fields = true) : Fields.get? fields key = none := by
  induction fields with
  | nil => rfl
  | cons f rest ih =>
    obtain ⟨k, v⟩ := f
    obtain ⟨hk, -, hrest⟩ := fieldsLackKey_cons.1 h
    rw [Fields.get?_cons, if_neg hk, ih hrest]

theorem ne_of_fieldsLackKey {fields : List (String × Json)} (h : fieldsLackKey key fields = true)
    {f : String × Json} (hf : f ∈ fields) : f.1 ≠ key := by
  induction fields with
  | nil => cases hf
  | cons g rest ih =>
    obtain ⟨k, v⟩ := g
    obtain ⟨hk, -, hrest⟩ := fieldsLackKey_cons.1 h
    rcases List.mem_cons.1 hf with rfl | hf
    · exact hk
    · exact ih hrest hf

theorem lacksKey_of_get? {fields : List (String × Json)} {k : String} {v : Json}
    (h : fieldsLackKey key fields = true) (hv : Fields.get? fields k = some v) :
    lacksKey key v = true := by
  induction fields with
  | nil => cases hv
  | cons f rest ih =>
    obtain ⟨l, w⟩ := f
    obtain ⟨-, hw, hrest⟩ := fieldsLackKey_cons.1 h
    rw [Fields.get?_cons] at hv
    split at hv
    · cases hv
      exact hw
    · exact ih hrest hv

theorem fieldsLackKey_insert {fields : List (String × Json)} {k : String} {v : Json}
    (h : fieldsLackKey key fields = true) (hk : k ≠ key) (hv : lacksKey key v = true) :
    fieldsLackKey key (Fields.insert fields k v) = true := by
  induction fields with
  | nil => simp [Fields.insert, fieldsLackKey, hk, hv]
  | cons f rest ih =>
    obtain ⟨l, w⟩ := f
    obtain ⟨hl, hw, hrest⟩ := fieldsLackKey_cons.1 h
    rw [Fields.insert]
    split
    · rename_i heq
      exact fieldsLackKey_cons.2 ⟨hl, hv, hrest⟩
    · exact fieldsLackKey_cons.2 ⟨hl, hw, ih hrest⟩

mutual

/-- Merging brings in no keys but those of both values. -/
theorem lacksKey_merge {base : Json} (patch : Json) (hb : lacksKey key base = true)
    (hp : lacksKey key patch = true) : lacksKey key (merge base patch) = true := by
  match patch with
  | .obj fields =>
    rw [lacksKey] at hp
    cases base with
    | obj before =>
      rw [lacksKey] at hb
      exact fieldsLackKey_mergeFields fields hb hp
    | null | bool | int | float | str | arr => exact hp
  | .null | .bool _ | .int _ | .float _ | .str _ | .arr _ => exact hp

theorem fieldsLackKey_mergeFields {before : List (String × Json)} (fields : List (String × Json))
    (hb : fieldsLackKey key before = true) (hp : fieldsLackKey key fields = true) :
    fieldsLackKey key (mergeFields before fields) = true := by
  match fields with
  | [] => exact hb
  | (k, v) :: rest =>
    obtain ⟨hk, hv, hrest⟩ := fieldsLackKey_cons.1 hp
    rw [mergeFields]
    refine fieldsLackKey_mergeFields rest (fieldsLackKey_insert hb hk ?_) hrest
    cases hold : Fields.get? before k with
    | none => exact hv
    | some old => exact lacksKey_merge v (lacksKey_of_get? hb hold) hv

end

end

end Json

namespace Overlay

open Json

/-! ## Expanding one value -/

section
variable {inner : Json → Except TooDeep Json} {fields patch : List (String × Json)} {w : Json}

theorem expandWith_arr {items more : List Json} (h : expandItems inner items = .ok more) :
    expandWith inner (.arr items) = .ok (.arr more) := by
  rw [expandWith, h]
  rfl

theorem expandWith_arr_eq_ok_iff {items : List Json} :
    expandWith inner (.arr items) = .ok w ↔
      ∃ more, expandItems inner items = .ok more ∧ w = .arr more := by
  constructor
  · intro h
    rw [expandWith] at h
    obtain ⟨more, hmore, h⟩ := exists_of_bind_ok h
    cases h
    exact ⟨more, hmore, rfl⟩
  · rintro ⟨more, hmore, rfl⟩
    exact expandWith_arr hmore

theorem expandWith_carrier (h : (Fields.get? fields marker).bind patchOf? = some patch) :
    expandWith inner (.obj fields) =
      inner (.obj (mergeFields (Fields.erase fields marker) patch)) := by
  rw [expandWith, h]
  rfl

theorem expandWith_plain {more : List (String × Json)}
    (hno : (Fields.get? fields marker).bind patchOf? = none)
    (h : expandFields inner fields = .ok more) :
    expandWith inner (.obj fields) = .ok (.obj more) := by
  rw [expandWith, hno]
  simp only [h]
  rfl

/-- An object with an overlay is merged with it and left to the next level; another one is expanded
field by field. -/
theorem expandWith_obj_eq_ok_iff : expandWith inner (.obj fields) = .ok w ↔
    (∃ patch, (Fields.get? fields marker).bind patchOf? = some patch ∧
      inner (.obj (mergeFields (Fields.erase fields marker) patch)) = .ok w) ∨
    ((Fields.get? fields marker).bind patchOf? = none ∧
      ∃ more, expandFields inner fields = .ok more ∧ w = .obj more) := by
  cases hpatch : (Fields.get? fields marker).bind patchOf? with
  | some patch =>
    rw [expandWith_carrier hpatch]
    exact ⟨fun h => .inl ⟨patch, rfl, h⟩, by rintro (⟨_, ⟨⟩, h⟩ | ⟨⟨⟩, _⟩); exact h⟩
  | none =>
    constructor
    · intro h
      rw [expandWith, hpatch] at h
      obtain ⟨more, hmore, h⟩ := exists_of_bind_ok h
      cases h
      exact .inr ⟨rfl, more, hmore, rfl⟩
    · rintro (⟨_, ⟨⟩, _⟩ | ⟨-, more, hmore, rfl⟩)
      exact expandWith_plain hpatch hmore

theorem expandItems_cons_eq_ok_iff {v : Json} {rest more : List Json} :
    expandItems inner (v :: rest) = .ok more ↔
      ∃ w others, expandWith inner v = .ok w ∧ expandItems inner rest = .ok others ∧
        more = w :: others := by
  rw [expandItems]
  constructor
  · intro h
    obtain ⟨w, hw, h⟩ := exists_of_bind_ok h
    obtain ⟨others, hothers, h⟩ := exists_of_bind_ok h
    cases h
    exact ⟨w, others, hw, hothers, rfl⟩
  · rintro ⟨w, others, hw, hothers, rfl⟩
    rw [hw, hothers]
    rfl

theorem expandFields_marker {v : Json} {rest : List (String × Json)} :
    expandFields inner ((marker, v) :: rest) = expandFields inner rest := by
  rw [expandFields, if_pos rfl]

theorem expandFields_cons_eq_ok_iff {key : String} (hkey : key ≠ marker) {v : Json}
    {rest more : List (String × Json)} :
    expandFields inner ((key, v) :: rest) = .ok more ↔
      ∃ w others, expandWith inner v = .ok w ∧ expandFields inner rest = .ok others ∧
        more = (key, w) :: others := by
  rw [expandFields, if_neg hkey]
  constructor
  · intro h
    obtain ⟨w, hw, h⟩ := exists_of_bind_ok h
    obtain ⟨others, hothers, h⟩ := exists_of_bind_ok h
    cases h
    exact ⟨w, others, hw, hothers, rfl⟩
  · rintro ⟨w, others, hw, hothers, rfl⟩
    rw [hw, hothers]
    rfl

end

/-! ## Values without markers -/

section
variable {inner : Json → Except TooDeep Json}

mutual

theorem expandWith_of_lacksKey (v : Json) (h : lacksKey marker v = true) :
    expandWith inner v = .ok v := by
  match v with
  | .null | .bool _ | .int _ | .float _ | .str _ => rfl
  | .arr items =>
    rw [lacksKey] at h
    exact expandWith_arr (expandItems_of_lackKey items h)
  | .obj fields =>
    rw [lacksKey] at h
    exact expandWith_plain (by rw [get?_of_fieldsLackKey h, Option.bind_none])
      (expandFields_of_lackKey fields h)

theorem expandItems_of_lackKey (items : List Json) (h : itemsLackKey marker items = true) :
    expandItems inner items = .ok items := by
  match items with
  | [] => rfl
  | v :: rest =>
    simp only [itemsLackKey, Bool.and_eq_true] at h
    exact expandItems_cons_eq_ok_iff.2
      ⟨v, rest, expandWith_of_lacksKey v h.1, expandItems_of_lackKey rest h.2, rfl⟩

theorem expandFields_of_lackKey (fields : List (String × Json))
    (h : fieldsLackKey marker fields = true) : expandFields inner fields = .ok fields := by
  match fields with
  | [] => rfl
  | (k, v) :: rest =>
    obtain ⟨hk, hv, hrest⟩ := fieldsLackKey_cons.1 h
    exact (expandFields_cons_eq_ok_iff hk).2
      ⟨v, rest, expandWith_of_lacksKey v hv, expandFields_of_lackKey rest hrest, rfl⟩

end

theorem expandFields_append (first : List (String × Json)) {last more : List (String × Json)}
    (hfirst : fieldsLackKey marker first = true) (hlast : expandFields inner last = .ok more) :
    expandFields inner (first ++ last) = .ok (first ++ more) := by
  induction first with
  | nil => exact hlast
  | cons f rest ih =>
    obtain ⟨k, v⟩ := f
    obtain ⟨hk, hv, hrest⟩ := fieldsLackKey_cons.1 hfirst
    exact (expandFields_cons_eq_ok_iff hk).2
      ⟨v, rest ++ more, expandWith_of_lacksKey v hv, ih hrest, rfl⟩

theorem expandFields_single {key : String} (hk : key ≠ marker) {v w : Json}
    (hv : expandWith inner v = .ok w) : expandFields inner [(key, v)] = .ok [(key, w)] :=
  (expandFields_cons_eq_ok_iff hk).2 ⟨w, [], hv, rfl, rfl⟩

theorem expandItems_map {f g : Json → Json} {items : List Json}
    (h : ∀ v ∈ items, expandWith inner (f v) = .ok (g v)) :
    expandItems inner (items.map f) = .ok (items.map g) := by
  induction items with
  | nil => rfl
  | cons v rest ih =>
    rw [List.map_cons, List.map_cons]
    exact expandItems_cons_eq_ok_iff.2 ⟨g v, rest.map g, h v (List.mem_cons_self ..),
      ih fun w hw => h w (List.mem_cons_of_mem v hw), rfl⟩

theorem expandWith_obj {fields more : List (String × Json)}
    (hno : Fields.get? fields marker = none) (h : expandFields inner fields = .ok more) :
    expandWith inner (.obj fields) = .ok (.obj more) :=
  expandWith_plain (by rw [hno, Option.bind_none]) h

theorem get?_marked {fields : List (String × Json)} (v : Json)
    (hfields : fieldsLackKey marker fields = true) :
    Fields.get? (fields ++ [(marker, v)]) marker = some v := by
  induction fields with
  | nil => rw [List.nil_append, Fields.get?_cons, if_pos rfl]
  | cons f rest ih =>
    obtain ⟨k, w⟩ := f
    obtain ⟨hk, -, hrest⟩ := fieldsLackKey_cons.1 hfields
    rw [List.cons_append, Fields.get?_cons, if_neg hk, ih hrest]

theorem erase_marked {fields : List (String × Json)} (v : Json)
    (hfields : fieldsLackKey marker fields = true) :
    Fields.erase (fields ++ [(marker, v)]) marker = fields := by
  induction fields with
  | nil => rw [List.nil_append, Fields.erase_cons, if_pos rfl, Fields.erase, List.filter_nil]
  | cons f rest ih =>
    obtain ⟨k, w⟩ := f
    obtain ⟨hk, -, hrest⟩ := fieldsLackKey_cons.1 hfields
    rw [List.cons_append, Fields.erase_cons, if_neg hk, ih hrest]

/-- A marker at the end is merged into the fields before it, or dropped if it is no overlay. -/
theorem expandWith_marked {fields : List (String × Json)} (v : Json)
    (hfields : fieldsLackKey marker fields = true) :
    expandWith inner (.obj (fields ++ [(marker, v)])) =
      match patchOf? v with
      | some patch => inner ((Json.obj fields).merge (.obj patch))
      | none => .ok (.obj fields) := by
  have hexpand : expandFields inner (fields ++ [(marker, v)]) = .ok fields := by
    have h := expandFields_append fields hfields
      (show expandFields inner [(marker, v)] = .ok [] from expandFields_marker)
    rwa [List.append_nil] at h
  have hget : (Fields.get? (fields ++ [(marker, v)]) marker).bind patchOf? = patchOf? v := by
    rw [get?_marked v hfields, Option.bind_some]
  cases hpatch : patchOf? v with
  | some patch =>
    rw [expandWith_carrier (hget.trans hpatch), erase_marked v hfields]
    rfl
  | none => exact expandWith_plain (hget.trans hpatch) hexpand

end

theorem expandLevels_of_lacksKey (limit : ℤ) (levels : ℕ) {v : Json}
    (h : lacksKey marker v = true) : expandLevels limit levels v = .ok v := by
  cases levels <;> exact expandWith_of_lacksKey v h

theorem expand_of_lacksKey (limit : ℤ) {v : Json} (h : lacksKey marker v = true) :
    expand limit v = .ok v := expandLevels_of_lacksKey limit _ h

end Overlay

end FlexForm
