import FlexForm.Proofs.Json.Position
import FlexForm.Proofs.Json.Reading

/-! # Where the leaves of an expanded value come from

Expanding a value reads texts: those under a marker in the value, and those under a marker in what
such a text holds. Each leaf of the expanded value is a leaf of the value or of what a text that was
read holds.

* `Brought`: the texts that stand under a marker somewhere on the way.
* `Source`: the leaves that a value and the texts it brings have.
* `expand_sources`: an expanded value has no other leaves.
* `leaves_finish`: so it is with an overlay for the whole.
* `expandWith_fill`: around a place without markers nothing changes.
-/

namespace FlexForm.Overlay
set_option autoImplicit false

open Json

/-- The texts under a marker in a value, or in what a text under a marker holds. -/
inductive Brought (v : Json) : String → Prop
  | marked {t : String} (h : (some marker, .str t) ∈ v.leaves none) : Brought v t
  | nested {t u : String} {patch : List (String × Json)} (ht : Brought v t)
      (hpatch : patchOf? (.str t) = some patch) (h : (some marker, .str u) ∈ fieldLeaves patch) :
      Brought v u

/-- A leaf of the value, or of what a text that it brings holds. -/
inductive Source (v : Json) (leaf : Option String × Json) : Prop
  | own (h : leaf ∈ v.leaves none) : Source v leaf
  | read {t : String} {patch : List (String × Json)} (ht : Brought v t)
      (hpatch : patchOf? (.str t) = some patch) (h : leaf ∈ fieldLeaves patch) : Source v leaf

section
variable {root : Json} {leaf : Option String × Json}

theorem Source.brought {t : String} (h : Source root (some marker, .str t)) : Brought root t := by
  cases h with
  | own h => exact .marked h
  | read ht hpatch h => exact .nested ht hpatch h

theorem patchOf?_cases {v : Json} {patch : List (String × Json)} (h : patchOf? v = some patch) :
    v = .obj patch ∨ ∃ t, v = .str t := by
  cases v with
  | obj fields =>
    cases h
    exact .inl rfl
  | str t => exact .inr ⟨t, rfl⟩
  | null | bool | int | float | arr => cases h

theorem source_of_patch {v : Json} {patch : List (String × Json)}
    (hv : ∀ leaf ∈ v.leaves (some marker), Source root leaf) (hpatch : patchOf? v = some patch)
    (h : leaf ∈ fieldLeaves patch) : Source root leaf := by
  rcases patchOf?_cases hpatch with rfl | ⟨t, rfl⟩
  · exact hv leaf h
  · have ht : Brought root t := (hv _ (by rw [leaves, List.mem_singleton])).brought
    exact .read ht hpatch h

/-! ## Expanding -/

/-- From a value with sources only, the expansion makes one with sources only. -/
def KeepsSources (root : Json) (expansion : Json → Except TooDeep Json) : Prop :=
  ∀ {key v w}, (∀ leaf ∈ v.leaves key, Source root leaf) → expansion v = .ok w →
    ∀ leaf ∈ w.leaves key, Source root leaf

variable {inner : Json → Except TooDeep Json}

mutual

/-- Expanding keeps to the sources if expanding what was merged does. -/
theorem expandWith_sources (hinner : KeepsSources root inner) {key : Option String} {w : Json}
    (v : Json) (hv : ∀ leaf ∈ v.leaves key, Source root leaf) (h : expandWith inner v = .ok w) :
    ∀ leaf ∈ w.leaves key, Source root leaf := by
  match v with
  | .null | .bool _ | .int _ | .float _ | .str _ =>
    cases h
    exact hv
  | .arr items =>
    obtain ⟨more, hitems, rfl⟩ := expandWith_arr_eq_ok_iff.1 h
    exact expandItems_sources hinner items hv hitems
  | .obj fields =>
    obtain ⟨patch, hpatch, h⟩ | ⟨-, more, hfields, rfl⟩ := expandWith_obj_eq_ok_iff.1 h
    · obtain ⟨u, hu, hpatch⟩ := Option.bind_eq_some_iff.1 hpatch
      refine hinner (fun leaf hleaf => ?_) h
      rcases fieldLeaves_mergeFields _ hleaf with hleaf | hleaf
      · exact hv leaf (mem_fieldLeaves_erase hleaf)
      · exact source_of_patch (fun leaf hleaf => hv leaf (mem_fieldLeaves_of_get? hu hleaf)) hpatch
          hleaf
    · exact expandFields_sources hinner fields hv hfields

theorem expandItems_sources (hinner : KeepsSources root inner) {more : List Json}
    (items : List Json) (hitems : ∀ leaf ∈ itemLeaves items, Source root leaf)
    (h : expandItems inner items = .ok more) : ∀ leaf ∈ itemLeaves more, Source root leaf := by
  match items with
  | [] =>
    cases h
    exact hitems
  | v :: rest =>
    rw [itemLeaves, List.forall_mem_append] at hitems
    obtain ⟨w, others, hw, hothers, rfl⟩ := expandItems_cons_eq_ok_iff.1 h
    rw [itemLeaves, List.forall_mem_append]
    exact ⟨expandWith_sources hinner v hitems.1 hw, expandItems_sources hinner rest hitems.2 hothers⟩

theorem expandFields_sources (hinner : KeepsSources root inner) {more : List (String × Json)}
    (fields : List (String × Json))
    (hfields : ∀ leaf ∈ fieldLeaves fields, Source root leaf)
    (h : expandFields inner fields = .ok more) : ∀ leaf ∈ fieldLeaves more, Source root leaf := by
  match fields with
  | [] =>
    cases h
    exact hfields
  | (k, v) :: rest =>
    rw [fieldLeaves, List.forall_mem_append] at hfields
    rcases eq_or_ne k marker with rfl | hk
    · exact expandFields_sources hinner rest hfields.2 (expandFields_marker.symm.trans h)
    · obtain ⟨w, others, hw, hothers, rfl⟩ := (expandFields_cons_eq_ok_iff hk).1 h
      rw [fieldLeaves, List.forall_mem_append]
      exact ⟨expandWith_sources hinner v hfields.1 hw,
        expandFields_sources hinner rest hfields.2 hothers⟩

end

theorem expandLevels_sources (limit : ℤ) (levels : ℕ) :
    KeepsSources root (expandLevels limit levels) := by
  induction levels with
  | zero => exact fun hv h => expandWith_sources (fun _ h => by cases h) _ hv h
  | succ levels ih => exact fun hv h => expandWith_sources ih _ hv h

end

/-- An expanded value has only leaves of the value and of the texts it brings. -/
theorem expand_sources {limit : ℤ} {v w : Json} (h : expand limit v = .ok w) :
    ∀ leaf ∈ w.leaves none, Source v leaf :=
  expandLevels_sources limit _ (fun _ hleaf => .own hleaf) h

/-! ## An overlay for the whole -/

theorem leaves_finish {message overlay : Json} {leaf : Option String × Json}
    (h : leaf ∈ (finish message overlay).leaves none) :
    leaf ∈ message.leaves none ∨
      ∃ patch, patchOf? overlay = some patch ∧ leaf ∈ fieldLeaves patch := by
  unfold finish at h
  split at h
  next patch fields hpatch => exact (leaves_merge _ h).imp_right fun h => ⟨patch, hpatch, h⟩
  next => exact .inl h

/-- An overlay keeps its leaves in a message that is an object. -/
theorem leaves_finish_of_overlay {message overlay : Json} {patch : List (String × Json)}
    (hpatch : patchOf? overlay = some patch) (hkeys : fieldsDistinct patch = true)
    (hobject : (finish message overlay).isObject = true) {leaf : Option String × Json}
    (h : leaf ∈ fieldLeaves patch) : leaf ∈ (finish message overlay).leaves none := by
  cases message with
  | obj fields =>
    unfold finish
    rw [hpatch]
    exact leaves_merge_of_patch (.obj patch) hkeys h
  | null | bool | int | float | str | arr =>
    unfold finish at hobject
    rw [hpatch] at hobject
    cases hobject

theorem fieldsDistinct_of_patchOf? {t : String} {patch : List (String × Json)}
    (h : patchOf? (.str t) = some patch) : fieldsDistinct patch = true := by
  cases hread : readChars true t.toList with
  | error fault =>
    simp only [patchOf?, readMaybe, hread] at h
    cases h
  | ok v =>
    simp only [patchOf?, readMaybe, hread] at h
    have hkeys := hasDistinctKeys_of_readChars hread
    cases v with
    | obj fields =>
      cases h
      exact hkeys
    | null | bool | int | float | str | arr => cases h

/-! ## Places without markers around them -/

section
variable {inner : Json → Except TooDeep Json}

theorem expandItems_around (before : List Json) (v : Json) {after : List Json}
    (hbefore : itemsLackKey marker before = true) (hafter : itemsLackKey marker after = true) :
    expandItems inner (before ++ v :: after) =
      (expandWith inner v).map fun w => before ++ w :: after := by
  induction before with
  | nil =>
    rw [List.nil_append, expandItems, expandItems_of_lackKey after hafter]
    cases expandWith inner v <;> rfl
  | cons u rest ih =>
    simp only [itemsLackKey, Bool.and_eq_true] at hbefore
    rw [List.cons_append, expandItems, expandWith_of_lacksKey u hbefore.1, ih hbefore.2]
    cases expandWith inner v <;> rfl

theorem expandFields_around (before : List (String × Json)) {key : String} (hkey : key ≠ marker)
    (v : Json) {after : List (String × Json)} (hbefore : fieldsLackKey marker before = true)
    (hafter : fieldsLackKey marker after = true) :
    expandFields inner (before ++ (key, v) :: after) =
      (expandWith inner v).map fun w => before ++ (key, w) :: after := by
  induction before with
  | nil =>
    rw [List.nil_append, expandFields, if_neg hkey, expandFields_of_lackKey after hafter]
    cases expandWith inner v <;> rfl
  | cons f rest ih =>
    obtain ⟨l, u⟩ := f
    obtain ⟨hl, hu, hrest⟩ := fieldsLackKey_cons.1 hbefore
    rw [List.cons_append, expandFields, if_neg hl, expandWith_of_lacksKey u hu, ih hrest]
    cases expandWith inner v <;> rfl

/-- Where nothing around a place has a marker, expanding changes what stands there only. -/
theorem expandWith_fill (position : Position) (v : Json)
    (h : lacksKey marker (position.fill .null) = true) :
    expandWith inner (position.fill v) = (expandWith inner v).map position.fill := by
  induction position with
  | here => cases hv : expandWith inner v <;> simp [Position.fill, hv, Except.map]
  | item before inside after ih =>
    simp only [Position.fill, lacksKey, itemsLackKey_eq_all, List.all_append, List.all_cons,
      Bool.and_eq_true] at h
    rw [Position.fill, expandWith, expandItems_around before _
      (itemsLackKey_eq_all _ before ▸ h.1) (itemsLackKey_eq_all _ after ▸ h.2.2), ih h.2.1]
    cases expandWith inner v <;> rfl
  | field before key inside after ih =>
    simp only [Position.fill, lacksKey] at h
    obtain ⟨hbefore, hrest⟩ := fieldsLackKey_append.1 h
    obtain ⟨hkey, hinside, hafter⟩ := fieldsLackKey_cons.1 hrest
    have hget : Fields.get? (before ++ (key, inside.fill v) :: after) marker = none := by
      rw [Fields.get?, List.lookup_eq_none_iff]
      intro f hf
      rw [bne_iff_ne]
      rcases List.mem_append.1 hf with hf | hf
      · exact (ne_of_fieldsLackKey hbefore hf).symm
      rcases List.mem_cons.1 hf with rfl | hf
      · exact hkey.symm
      · exact (ne_of_fieldsLackKey hafter hf).symm
    rw [Position.fill, expandWith, hget, Option.bind_none]
    simp only
    rw [expandFields_around before hkey _ hbefore hafter, ih hinside]
    cases expandWith inner v <;> rfl

end

end FlexForm.Overlay
