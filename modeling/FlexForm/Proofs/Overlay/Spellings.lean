import FlexForm.Proofs.Json.Written
import FlexForm.Proofs.Overlay.Merge
import FlexForm.Proofs.Overlay.Sources

/-! # Two spellings of an overlay

A marker holds an overlay as an object or as a JSON text of one, and a text is read when its turn
comes. What is merged before that sees an object in the one spelling and a text in the other: where
a patch brings a marker to a place that has one, two objects are merged, and a text replaces what
was there or is replaced.

* `Respelled`: the same value, with some overlays spelled in another way.
* `patchOf?_charsWith`: the JSON text of an overlay is such a spelling.
* `Clashes`: a text comes to a marker, or a marker to a text.
* `respelled_merge`: merging keeps to the other spelling where nothing clashes.
* `overlay_of_merged`: what is left of two overlays that come together.
-/

namespace FlexForm.Overlay
set_option autoImplicit false

open Json

/-! ## Other spellings -/

mutual

/-- The second value is the first one, whose overlays are objects, with any of them spelled in
another way. -/
inductive Respelled : Json → Json → Prop
  | same {v : Json} (h : v.isContainer = false) : Respelled v v
  | arr {items others : List Json} (h : RespelledItems items others) :
      Respelled (.arr items) (.arr others)
  | obj {fields others : List (String × Json)} (h : RespelledFields fields others) :
      Respelled (.obj fields) (.obj others)

inductive RespelledItems : List Json → List Json → Prop
  | nil : RespelledItems [] []
  | cons {v w : Json} {rest more : List Json} (h : Respelled v w)
      (hrest : RespelledItems rest more) : RespelledItems (v :: rest) (w :: more)

inductive RespelledFields : List (String × Json) → List (String × Json) → Prop
  | nil : RespelledFields [] []
  | cons {key : String} {v w : Json} {rest more : List (String × Json)} (h : RespelledAt key v w)
      (hrest : RespelledFields rest more) : RespelledFields ((key, v) :: rest) ((key, w) :: more)

/-- The values of one key: under the marker, all that is read as the overlay. -/
inductive RespelledAt : String → Json → Json → Prop
  | value {key : String} {v w : Json} (hkey : key ≠ marker) (h : Respelled v w) :
      RespelledAt key v w
  | overlay {patch other : List (String × Json)} {w : Json} (hread : patchOf? w = some other)
      (h : RespelledFields patch other) : RespelledAt marker (.obj patch) w

end

namespace RespelledFields

variable {fields others : List (String × Json)}

theorem get? (h : RespelledFields fields others) (key : String) :
    (Fields.get? fields key = none ∧ Fields.get? others key = none) ∨
      ∃ v w, Fields.get? fields key = some v ∧ Fields.get? others key = some w ∧
        RespelledAt key v w := by
  induction fields generalizing others with
  | nil =>
    cases h
    exact .inl ⟨rfl, rfl⟩
  | cons f rest ih =>
    cases h with
    | @cons k v w _ more hat hrest =>
      rw [Fields.get?_cons, Fields.get?_cons]
      by_cases hk : k = key
      · subst hk
        rw [if_pos rfl, if_pos rfl]
        exact .inr ⟨v, w, rfl, rfl, hat⟩
      · rw [if_neg hk, if_neg hk]
        exact ih hrest

theorem insert (h : RespelledFields fields others) {key : String} {v w : Json}
    (hat : RespelledAt key v w) :
    RespelledFields (Fields.insert fields key v) (Fields.insert others key w) := by
  induction fields generalizing others with
  | nil =>
    cases h
    exact .cons hat .nil
  | cons f rest ih =>
    cases h with
    | @cons k _ _ _ more hold hrest =>
      rw [Fields.insert, Fields.insert]
      by_cases hk : k = key
      · subst hk
        rw [if_pos rfl, if_pos rfl]
        exact .cons hat hrest
      · rw [if_neg hk, if_neg hk]
        exact .cons hold (ih hrest)

theorem erase (h : RespelledFields fields others) (key : String) :
    RespelledFields (Fields.erase fields key) (Fields.erase others key) := by
  induction fields generalizing others with
  | nil =>
    cases h
    exact .nil
  | cons f rest ih =>
    cases h with
    | @cons k v w _ more hat hrest =>
      rw [Fields.erase_cons, Fields.erase_cons]
      by_cases hk : k = key
      · rw [if_pos hk, if_pos hk]
        exact ih hrest
      · rw [if_neg hk, if_neg hk]
        exact .cons hat (ih hrest)

end RespelledFields

section
variable {key : String} {v w : Json}

theorem patchOf?_of_isObject {other : List (String × Json)} (h : patchOf? w = some other)
    (hw : w.isObject = true) : w = .obj other := by
  rcases patchOf?_cases h with rfl | ⟨t, rfl⟩
  · rfl
  · cases hw

theorem RespelledAt.respelled (h : RespelledAt key v w) (hw : key = marker → w.isObject = true) :
    Respelled v w := by
  cases h with
  | value _ h => exact h
  | overlay hread hpatch =>
    rw [patchOf?_of_isObject hread (hw rfl)]
    exact .obj hpatch

theorem Respelled.underKey (h : Respelled v w) (hv : key = marker → v.isObject = true) :
    RespelledAt key v w := by
  by_cases hkey : key = marker
  · subst hkey
    cases h with
    | same hkind =>
      cases v with
      | obj fields => cases hkind
      | null | bool | int | float | str | arr => cases hv rfl
    | arr => cases hv rfl
    | obj hfields => exact .overlay rfl hfields
  · exact .value hkey h

theorem RespelledAt.isObject_of_marker (h : RespelledAt key v w) (hkey : key = marker) :
    v.isObject = true := by
  cases h with
  | value hne => exact absurd hkey hne
  | overlay => rfl

end

mutual

theorem respelled_self (v : Json) (h : lacksKey marker v = true) : Respelled v v := by
  match v with
  | .null | .bool _ | .int _ | .float _ | .str _ => exact .same rfl
  | .arr items => exact .arr (respelledItems_self items h)
  | .obj fields => exact .obj (respelledFields_self fields h)

theorem respelledItems_self (items : List Json) (h : itemsLackKey marker items = true) :
    RespelledItems items items := by
  match items with
  | [] => exact .nil
  | v :: rest =>
    rw [itemsLackKey, Bool.and_eq_true] at h
    exact .cons (respelled_self v h.1) (respelledItems_self rest h.2)

theorem respelledFields_self (fields : List (String × Json))
    (h : fieldsLackKey marker fields = true) : RespelledFields fields fields := by
  match fields with
  | [] => exact .nil
  | (key, v) :: rest =>
    obtain ⟨hkey, hv, hrest⟩ := fieldsLackKey_cons.1 h
    exact .cons (.value hkey (respelled_self v hv)) (respelledFields_self rest hrest)

end

/-- The JSON text of an object is read as the object, however its characters are escaped. -/
theorem patchOf?_charsWith {esc : Char → List Char} (hesc : Escapes esc)
    {fields : List (String × Json)} (hkeys : hasDistinctKeys (.obj fields) = true)
    (hfinite : isFinite (.obj fields) = true) (hwritable : isWritable (.obj fields) = true) :
    patchOf? (.str (String.ofList (charsWith esc (.obj fields)))) = some fields := by
  have hread : readChars true (charsWith esc (.obj fields)) = .ok (.obj fields) :=
    readChars_charsWith hesc hkeys hfinite hwritable
  rw [patchOf?, readMaybe, String.toList_ofList, hread]

/-! ## Markers that come together -/

/-- Whether one row of keys leads to a marker in both values and one of the two holds a text, so
that merging keeps the second only. -/
def Clashes (base patch : Json) : Prop :=
  ∃ keys x y, base.under? (keys ++ [marker]) = some x ∧ patch.under? (keys ++ [marker]) = some y ∧
    (x.isObject && y.isObject) = false

section
variable {base patch v w : Json} {key : String}

theorem Clashes.here (hbase : base.get? marker = some v) (hpatch : patch.get? marker = some w)
    (h : (v.isObject && w.isObject) = false) : Clashes base patch := by
  refine ⟨[], v, w, ?_, ?_, h⟩
  · exact under?_cons_eq_some.2 ⟨v, hbase, rfl⟩
  · exact under?_cons_eq_some.2 ⟨w, hpatch, rfl⟩

theorem Clashes.below (hbase : base.get? key = some v) (hpatch : patch.get? key = some w)
    (h : Clashes v w) : Clashes base patch := by
  obtain ⟨keys, x, y, hx, hy, hkind⟩ := h
  refine ⟨key :: keys, x, y, ?_, ?_, hkind⟩
  · exact under?_cons_eq_some.2 ⟨v, hbase, hx⟩
  · exact under?_cons_eq_some.2 ⟨w, hpatch, hy⟩

theorem Clashes.symm (h : Clashes base patch) : Clashes patch base := by
  obtain ⟨keys, x, y, hx, hy, hkind⟩ := h
  exact ⟨keys, y, x, hy, hx, by rwa [Bool.and_comm]⟩

theorem not_clashes_of_lacksKey (h : lacksKey marker patch = true) : ¬ Clashes base patch := by
  rintro ⟨keys, x, y, -, hy, -⟩
  induction keys generalizing patch with
  | nil =>
    obtain ⟨u, hu, -⟩ := under?_cons_eq_some.1 hy
    obtain ⟨fields, rfl, hget⟩ := exists_fields_of_get? hu
    rw [get?_of_fieldsLackKey h] at hget
    cases hget
  | cons key rest ih =>
    obtain ⟨u, hu, hrest⟩ := under?_cons_eq_some.1 hy
    exact ih ((hereditary_lacksKey marker).get? h hu) hrest

/-- What was merged for another key does not bring markers together. -/
theorem clashes_of_insert {fields rest : List (String × Json)} {u : Json}
    (hnew : Fields.get? rest key = none)
    (h : Clashes (.obj (Fields.insert fields key u)) (.obj rest)) :
    Clashes (.obj fields) (.obj ((key, v) :: rest)) := by
  obtain ⟨keys, x, y, hx, hy, hkind⟩ := h
  obtain ⟨first, more, hkeys⟩ : ∃ first more, keys ++ [marker] = first :: more :=
    List.exists_cons_of_ne_nil (List.concat_ne_nil marker keys)
  rw [hkeys] at hx hy
  obtain ⟨a, ha, hx⟩ := under?_cons_eq_some.1 hx
  obtain ⟨b, hb, hy⟩ := under?_cons_eq_some.1 hy
  have hne : key ≠ first := by
    rintro rfl
    rw [Json.get?, hnew] at hb
    cases hb
  rw [Json.get?, Fields.get?_insert_of_ne _ _ hne] at ha
  have hkept : (Json.obj ((key, v) :: rest)).get? first = some b := by
    rwa [Json.get?, Fields.get?_cons, if_neg hne]
  refine ⟨keys, x, y, ?_, ?_, hkind⟩
  · rw [hkeys]
    exact under?_cons_eq_some.2 ⟨a, ha, hx⟩
  · rw [hkeys]
    exact under?_cons_eq_some.2 ⟨b, hkept, hy⟩

theorem isObject_merge (base : Json) (h : patch.isObject = true) :
    (merge base patch).isObject = true := by
  cases patch with
  | obj more => cases base <;> rfl
  | null | bool | int | float | str | arr => cases h

end

mutual

/-- Merging other spellings gives another spelling of the merged value. -/
theorem respelled_merge {v w : Json} (hv : Respelled v w) (p : Json) {q : Json}
    (hp : Respelled p q) (hkeys : hasDistinctKeys p = true) (hapart : ¬ Clashes w q) :
    Respelled (merge v p) (merge w q) := by
  match p with
  | .obj patch =>
    cases hp with
    | same hkind => cases hkind
    | obj hpatch =>
      cases hv with
      | same hkind =>
        cases v with
        | obj fields => cases hkind
        | null | bool | int | float | str | arr => exact .obj hpatch
      | arr hitems => exact .obj hpatch
      | obj hfields => exact .obj (respelledFields_merge hfields patch hpatch hkeys hapart)
  | .arr items =>
    cases hp with
    | same hkind => cases hkind
    | arr hitems => exact .arr hitems
  | .null | .bool _ | .int _ | .float _ | .str _ =>
    cases hp
    exact .same rfl

theorem respelledFields_merge {fields others : List (String × Json)}
    (hfields : RespelledFields fields others) (patch : List (String × Json))
    {read : List (String × Json)} (hpatch : RespelledFields patch read)
    (hkeys : fieldsDistinct patch = true) (hapart : ¬ Clashes (.obj others) (.obj read)) :
    RespelledFields (mergeFields fields patch) (mergeFields others read) := by
  match patch with
  | [] =>
    cases hpatch
    exact hfields
  | (key, v) :: rest =>
    cases hpatch with
    | @cons _ _ w _ more hat hrest =>
      simp only [fieldsDistinct, Bool.and_eq_true, Bool.not_eq_true'] at hkeys
      obtain ⟨⟨hnew, hv⟩, hkeys⟩ := hkeys
      have hnone : Fields.get? more key = none := by
        obtain ⟨-, hnone⟩ | ⟨u, -, hu, -⟩ := hrest.get? key
        · exact hnone
        · rw [Fields.has, hu] at hnew
          cases hnew
      rw [mergeFields, mergeFields]
      refine respelledFields_merge (hfields.insert ?_) rest hrest hkeys
        fun h => hapart (clashes_of_insert hnone h)
      obtain ⟨hold, hold'⟩ | ⟨old, old', hold, hold', hatOld⟩ := hfields.get? key
      · rw [hold, hold']
        exact hat
      · rw [hold, hold']
        have hbase : (Json.obj others).get? key = some old' := hold'
        have hmore : (Json.obj ((key, w) :: more)).get? key = some w := by
          rw [Json.get?, Fields.get?_cons, if_pos rfl]
        -- Under the marker both are objects, so all keys are merged in the same way.
        have hobjects : key = marker → (old'.isObject && w.isObject) = true := by
          rintro rfl
          by_contra hkind
          exact hapart (Clashes.here hbase hmore (by simpa using hkind))
        simp only [Bool.and_eq_true] at hobjects
        have hOld : Respelled old old' := hatOld.respelled fun hkey => (hobjects hkey).1
        have hNew : Respelled v w := hat.respelled fun hkey => (hobjects hkey).2
        have hbelow : ¬ Clashes old' w := fun h => hapart (Clashes.below hbase hmore h)
        have hmerged := respelled_merge hOld v hNew hv hbelow
        exact hmerged.underKey fun hkey => isObject_merge old (hat.isObject_of_marker hkey)

end

/-- Two overlays that are merged are one overlay if both are objects, and the second one replaces
the first if not. -/
theorem patchOf?_merge {x y : Json} {first second : List (String × Json)}
    (hx : patchOf? x = some first) (hy : patchOf? y = some second) :
    patchOf? (merge x y) =
      some (if x.isObject && y.isObject then mergeFields first second else second) := by
  rcases patchOf?_cases hx with rfl | ⟨s, rfl⟩
  · rcases patchOf?_cases hy with rfl | ⟨t, rfl⟩
    · rfl
    · exact hy
  · rcases patchOf?_cases hy with rfl | ⟨t, rfl⟩
    · rfl
    · exact hy

/-- Wherever two markers come together, this is what the merged value has there. -/
theorem overlay_of_merged {base patch x y : Json} {keys : List String}
    {first second : List (String × Json)} (hpatch : hasDistinctKeys patch = true)
    (hbase : base.under? (keys ++ [marker]) = some x)
    (hmore : patch.under? (keys ++ [marker]) = some y)
    (hx : patchOf? x = some first) (hy : patchOf? y = some second) :
    ((merge base patch).under? (keys ++ [marker])).bind patchOf? =
      some (if x.isObject && y.isObject then mergeFields first second else second) := by
  rw [under?_merge_of_some hpatch hbase hmore]
  exact patchOf?_merge hx hy

end FlexForm.Overlay
