import FlexForm.Proofs.Overlay.Levels
import FlexForm.Proofs.Overlay.Merge
import FlexForm.Proofs.Overlay.Sources

/-! # Overlays inside one another

When no overlay brings in overlays, the levels that an expansion takes are still not one for the
whole value: an object with an overlay takes a level for all that it holds, so the levels add up
over objects with overlays that lie inside one another. Only those count that are not overwritten by
the overlays around them, so the count goes down the value together with what these overlays have at
the same place.

* `isFlat`: no overlay in a value has a marker.
* `nesting`: how many objects with overlays lie inside one another.
* `isOk_expandLevels_covered`: the levels that a value takes, merged with what lies over it.
* `exists_flat_beyond`: no limit is enough for all flat values.
* `expand_isOk_iff_nesting_le`: a flat value is expanded exactly if its nesting is within the limit.
-/

namespace FlexForm.Overlay
set_option autoImplicit false

open Json

/-! ## Flat values -/

mutual

/-- Whether no overlay in the value has a marker at any depth. -/
def isFlat : Json → Bool
  | .arr items => areFlat items
  | .obj fields => haveFlat fields
  | .null | .bool _ | .int _ | .float _ | .str _ => true

def areFlat : List Json → Bool
  | [] => true
  | v :: rest => isFlat v && areFlat rest

def haveFlat : List (String × Json) → Bool
  | [] => true
  | (key, v) :: rest =>
    (if key = marker then (patchOf? v).all (fieldsLackKey marker) else isFlat v) && haveFlat rest

end

/-! ## Nesting -/

mutual

/-- How many objects with overlays lie inside one another, where the values over the whole are
merged into it before. -/
def nesting (covers : List Json) : Json → ℕ
  | .arr items => if covers.isEmpty then itemsNesting items else 0
  | .obj fields =>
    if covers.all isObject then
      match (Fields.get? fields marker).bind patchOf? with
      | some patch => fieldsNesting (covers ++ [.obj patch]) fields + 1
      | none => fieldsNesting covers fields
    else 0
  | .null | .bool _ | .int _ | .float _ | .str _ => 0

def itemsNesting : List Json → ℕ
  | [] => 0
  | v :: rest => max (nesting [] v) (itemsNesting rest)

def fieldsNesting (covers : List Json) : List (String × Json) → ℕ
  | [] => 0
  | (key, v) :: rest =>
    if key = marker then fieldsNesting covers rest
    else max (nesting (covers.filterMap (·.get? key)) v) (fieldsNesting covers rest)

end

theorem itemsNesting_le_iff {items : List Json} {levels : ℕ} :
    itemsNesting items ≤ levels ↔ ∀ v ∈ items, nesting [] v ≤ levels := by
  induction items with
  | nil => simp [itemsNesting]
  | cons v rest ih => rw [itemsNesting, max_le_iff, ih, List.forall_mem_cons]

theorem fieldsNesting_le_iff {covers : List Json} {fields : List (String × Json)} {levels : ℕ} :
    fieldsNesting covers fields ≤ levels ↔ ∀ f ∈ fields, f.1 ≠ marker →
      nesting (covers.filterMap (·.get? f.1)) f.2 ≤ levels := by
  induction fields with
  | nil => simp [fieldsNesting]
  | cons f rest ih =>
    obtain ⟨key, v⟩ := f
    rw [fieldsNesting, List.forall_mem_cons]
    split
    next hkey => simp [ih, hkey]
    next hkey => rw [max_le_iff, ih]; simp [hkey]

/-! ## Parts that are expanded -/

section
variable {inner : Json → Except TooDeep Json}

theorem isOk_expandItems_iff {items : List Json} :
    (expandItems inner items).isOk = true ↔ ∀ v ∈ items, (expandWith inner v).isOk = true := by
  induction items with
  | nil => exact ⟨fun _ v hv => absurd hv List.not_mem_nil, fun _ => rfl⟩
  | cons v rest ih =>
    rw [List.forall_mem_cons, ← ih]
    simp only [isOk_iff_exists, expandItems_cons_eq_ok_iff]
    constructor
    · rintro ⟨_, w, others, hw, hothers, -⟩
      exact ⟨⟨w, hw⟩, others, hothers⟩
    · rintro ⟨⟨w, hw⟩, others, hothers⟩
      exact ⟨w :: others, w, others, hw, hothers, rfl⟩

theorem isOk_expandFields_iff {fields : List (String × Json)} :
    (expandFields inner fields).isOk = true ↔
      ∀ f ∈ fields, f.1 ≠ marker → (expandWith inner f.2).isOk = true := by
  induction fields with
  | nil => exact ⟨fun _ f hf => absurd hf List.not_mem_nil, fun _ => rfl⟩
  | cons f rest ih =>
    obtain ⟨key, v⟩ := f
    rw [List.forall_mem_cons, ← ih]
    rcases eq_or_ne key marker with rfl | hkey
    · rw [expandFields_marker]
      exact ⟨fun h => ⟨fun hne => absurd rfl hne, h⟩, fun h => h.2⟩
    · simp only [isOk_iff_exists, expandFields_cons_eq_ok_iff hkey]
      constructor
      · rintro ⟨_, w, others, hw, hothers, -⟩
        exact ⟨fun _ => ⟨w, hw⟩, others, hothers⟩
      · rintro ⟨hv, others, hothers⟩
        obtain ⟨w, hw⟩ := hv hkey
        exact ⟨(key, w) :: others, w, others, hw, hothers, rfl⟩

theorem isOk_expandWith_arr_iff {items : List Json} :
    (expandWith inner (.arr items)).isOk = true ↔
      ∀ v ∈ items, (expandWith inner v).isOk = true := by
  rw [← isOk_expandItems_iff]
  simp only [isOk_iff_exists, expandWith_arr_eq_ok_iff]
  constructor
  · rintro ⟨_, more, hmore, -⟩
    exact ⟨more, hmore⟩
  · rintro ⟨more, hmore⟩
    exact ⟨.arr more, more, hmore, rfl⟩

theorem isOk_expandWith_obj_iff {fields : List (String × Json)}
    (h : (Fields.get? fields marker).bind patchOf? = none) :
    (expandWith inner (.obj fields)).isOk = true ↔
      ∀ f ∈ fields, f.1 ≠ marker → (expandWith inner f.2).isOk = true := by
  rw [← isOk_expandFields_iff]
  simp only [isOk_iff_exists, expandWith_obj_eq_ok_iff, h]
  constructor
  · rintro ⟨_, ⟨_, ⟨⟩, -⟩ | ⟨-, more, hmore, -⟩⟩
    exact ⟨more, hmore⟩
  · rintro ⟨more, hmore⟩
    exact ⟨.obj more, .inr ⟨trivial, more, hmore, rfl⟩⟩

end

/-! ## Values with others over them -/

/-- A value that may lie over another one: it brings in no marker. -/
structure IsCover (c : Json) : Prop where
  keys : hasDistinctKeys c = true
  unmarked : lacksKey marker c = true

theorem IsCover.get? {c u : Json} {key : String} (h : IsCover c) (hu : c.get? key = some u) :
    IsCover u :=
  ⟨hereditary_hasDistinctKeys.get? h.keys hu, (hereditary_lacksKey marker).get? h.unmarked hu⟩

theorem isCover_of_mem_filterMap {covers : List Json} (hover : ∀ c ∈ covers, IsCover c)
    (key : String) : ∀ u ∈ covers.filterMap (·.get? key), IsCover u := by
  intro u hu
  obtain ⟨c, hc, hget⟩ := List.mem_filterMap.1 hu
  exact (hover c hc).get? hget

section
variable {covers : List Json}

theorem lacksKey_foldl_merge (hover : ∀ c ∈ covers, IsCover c) {v : Json}
    (hv : lacksKey marker v = true) : lacksKey marker (covers.foldl merge v) = true := by
  induction covers generalizing v with
  | nil => exact hv
  | cons c rest ih =>
    rw [List.forall_mem_cons] at hover
    exact ih hover.2 (lacksKey_merge c hv hover.1.unmarked)

/-- Where something over a value is no object, nothing is left of the value. -/
theorem lacksKey_foldl_of_not_object (hover : ∀ c ∈ covers, IsCover c)
    (hobject : covers.all isObject = false) (v : Json) :
    lacksKey marker (covers.foldl merge v) = true := by
  obtain ⟨c, hc, hkind⟩ := List.all_eq_false.1 hobject
  obtain ⟨before, after, rfl⟩ := List.append_of_mem hc
  rw [List.foldl_append, List.foldl_cons, merge_of_not_object _ (by simpa using hkind)]
  exact lacksKey_foldl_merge (fun u hu => hover u (by simp [hu])) (hover c hc).unmarked

end

/-- Fields that come from others with objects merged into them: what the others have is there with
what lies over it, and what comes with the objects has no marker. -/
structure Covered (fields : List (String × Json)) (covers : List Json)
    (merged : List (String × Json)) : Prop where
  distinct : fieldsDistinct merged = true
  own {key : String} {v : Json} : key ≠ marker → Fields.get? fields key = some v →
    Fields.get? merged key = some ((covers.filterMap (·.get? key)).foldl merge v)
  other {key : String} {w : Json} : key ≠ marker → Fields.get? fields key = none →
    Fields.get? merged key = some w → lacksKey marker w = true

namespace Covered

variable {fields merged : List (String × Json)} {covers : List Json}

theorem self (h : fieldsDistinct fields = true) : Covered fields [] fields where
  distinct := h
  own _ hv := hv
  other _ hnone hw := by
    rw [hnone] at hw
    cases hw

theorem erase (h : Covered fields covers merged) :
    Covered fields covers (Fields.erase merged marker) where
  distinct := fieldsDistinct_erase marker h.distinct
  own hkey hv := by
    rw [Fields.get?_erase_of_ne _ hkey]
    exact h.own hkey hv
  other hkey hnone hw := by
    rw [Fields.get?_erase_of_ne _ hkey] at hw
    exact h.other hkey hnone hw

theorem merge (h : Covered fields covers merged) {patch : List (String × Json)}
    (hpatch : IsCover (.obj patch)) :
    Covered fields (covers ++ [.obj patch]) (mergeFields merged patch) where
  distinct := fieldsDistinct_mergeFields patch h.distinct hpatch.keys
  own {key v} hkey hv := by
    have hown := h.own hkey hv
    rw [get?_mergeFields (nodup_keys_of_fieldsDistinct hpatch.keys), List.filterMap_append,
      List.foldl_append, hown]
    cases hp : Fields.get? patch key with
    | none => simp [Json.get?, hp]
    | some u => simp [Json.get?, hp]
  other {key w} hkey hnone hw := by
    rw [get?_mergeFields (nodup_keys_of_fieldsDistinct hpatch.keys)] at hw
    cases hp : Fields.get? patch key with
    | none =>
      rw [hp] at hw
      exact h.other hkey hnone hw
    | some u =>
      have hu : lacksKey marker u = true := lacksKey_of_get? hpatch.unmarked hp
      rw [hp] at hw
      cases hold : Fields.get? merged key with
      | none =>
        rw [hold] at hw
        cases hw
        exact hu
      | some old =>
        rw [hold] at hw
        cases hw
        exact lacksKey_merge u (h.other hkey hnone hold) hu

theorem exists_foldl (hfields : fieldsDistinct fields = true) (hcovers : ∀ c ∈ covers, IsCover c)
    (hobjects : covers.all isObject = true) :
    ∃ merged, covers.foldl Json.merge (.obj fields) = .obj merged ∧ Covered fields covers merged ∧
      Fields.get? merged marker = Fields.get? fields marker := by
  induction covers using List.reverseRecOn with
  | nil => exact ⟨fields, rfl, self hfields, rfl⟩
  | append_singleton rest c ih =>
    rw [List.all_append, Bool.and_eq_true] at hobjects
    obtain ⟨merged, hmerged, hcovered, hmarker⟩ :=
      ih (fun u hu => hcovers u (List.mem_append_left _ hu)) hobjects.1
    have hc : IsCover c := hcovers c (by simp)
    cases c with
    | obj patch =>
      refine ⟨mergeFields merged patch, ?_, hcovered.merge hc, ?_⟩
      · rw [List.foldl_append, hmerged]
        rfl
      · rw [get?_mergeFields (nodup_keys_of_fieldsDistinct hc.keys),
          get?_of_fieldsLackKey hc.unmarked, hmarker]
    | null | bool | int | float | str | arr => simp [isObject] at hobjects

/-- What is expanded of covered fields is what the fields have, with what lies over it. -/
theorem forall_expanded_iff (h : Covered fields covers merged)
    (hfields : fieldsDistinct fields = true) {p : Json → Prop}
    (hp : ∀ w, lacksKey marker w = true → p w) :
    (∀ f ∈ merged, f.1 ≠ marker → p f.2) ↔
      ∀ f ∈ fields, f.1 ≠ marker → p ((covers.filterMap (·.get? f.1)).foldl Json.merge f.2) := by
  constructor
  · intro hall f hf hkey
    have hget := Fields.get?_of_mem (nodup_keys_of_fieldsDistinct hfields) hf
    exact hall _ (Fields.mem_of_get? (h.own hkey hget)) hkey
  · intro hall f hf hkey
    have hget := Fields.get?_of_mem (nodup_keys_of_fieldsDistinct h.distinct) hf
    cases hown : Fields.get? fields f.1 with
    | none => exact hp _ (h.other hkey hown hget)
    | some v =>
      have hsame := h.own hkey hown
      rw [hget] at hsame
      rw [Option.some.inj hsame]
      exact hall _ (Fields.mem_of_get? hown) hkey

end Covered

/-! ## Levels -/

section
variable {fields : List (String × Json)}

theorem isFlat_of_mem (h : haveFlat fields = true) {f : String × Json} (hf : f ∈ fields)
    (hkey : f.1 ≠ marker) : isFlat f.2 = true := by
  induction fields with
  | nil => cases hf
  | cons g rest ih =>
    obtain ⟨key, v⟩ := g
    rw [haveFlat, Bool.and_eq_true] at h
    rcases List.mem_cons.1 hf with rfl | hf
    · simpa [hkey] using h.1
    · exact ih h.2 hf

theorem isFlat_of_mem_items {items : List Json} (h : areFlat items = true) {v : Json}
    (hv : v ∈ items) : isFlat v = true := by
  induction items with
  | nil => cases hv
  | cons u rest ih =>
    rw [areFlat, Bool.and_eq_true] at h
    rcases List.mem_cons.1 hv with rfl | hv
    · exact h.1
    · exact ih h.2 hv

theorem fieldsLackKey_of_patch (hflat : haveFlat fields = true) {patch : List (String × Json)}
    (hpatch : (Fields.get? fields marker).bind patchOf? = some patch) :
    fieldsLackKey marker patch = true := by
  obtain ⟨u, hu, hread⟩ := Option.bind_eq_some_iff.1 hpatch
  have hmem := Fields.mem_of_get? hu
  clear hu hpatch
  induction fields with
  | nil => cases hmem
  | cons g rest ih =>
    obtain ⟨key, v⟩ := g
    rw [haveFlat, Bool.and_eq_true] at hflat
    rcases List.mem_cons.1 hmem with hmem | hmem
    · cases hmem
      simpa [hread] using hflat.1
    · exact ih hflat.2 hmem

theorem isCover_of_patch (hkeys : fieldsDistinct fields = true) (hflat : haveFlat fields = true)
    {patch : List (String × Json)}
    (hpatch : (Fields.get? fields marker).bind patchOf? = some patch) : IsCover (.obj patch) := by
  refine ⟨?_, fieldsLackKey_of_patch hflat hpatch⟩
  obtain ⟨u, hu, hread⟩ := Option.bind_eq_some_iff.1 hpatch
  rcases patchOf?_cases hread with rfl | ⟨t, rfl⟩
  · have hobject : hasDistinctKeys (.obj fields) = true := hkeys
    exact hereditary_hasDistinctKeys.get? hobject hu
  · exact fieldsDistinct_of_patchOf? hread

/-- Where an overlay without markers was merged, no marker is left at the top. -/
theorem get?_marker_of_merged (fields : List (String × Json)) {patch : List (String × Json)}
    (hpatch : IsCover (.obj patch)) :
    Fields.get? (mergeFields (Fields.erase fields marker) patch) marker = none := by
  rw [get?_mergeFields (nodup_keys_of_fieldsDistinct hpatch.keys),
    get?_of_fieldsLackKey hpatch.unmarked, Fields.get?_erase_self]

theorem exists_expandLevels_eq (limit : ℤ) (levels : ℕ) :
    ∃ inner, expandLevels limit levels = expandWith inner := by
  cases levels with
  | zero => exact ⟨_, rfl⟩
  | succ levels => exact ⟨_, rfl⟩

section
variable {limit : ℤ} {levels : ℕ} {covers : List Json} {merged : List (String × Json)}

theorem isOk_expandLevels_items {items : List Json}
    (hitems : ∀ v ∈ items, (expandLevels limit levels v).isOk = true ↔ nesting [] v ≤ levels) :
    (expandLevels limit levels (.arr items)).isOk = true ↔ itemsNesting items ≤ levels := by
  obtain ⟨inner, hinner⟩ := exists_expandLevels_eq limit levels
  rw [hinner] at hitems ⊢
  rw [isOk_expandWith_arr_iff, itemsNesting_le_iff]
  exact forall₂_congr hitems

/-- An object without an overlay takes as many levels as its values, with what lies over them. -/
theorem isOk_expandLevels_fields (h : Covered fields covers merged)
    (hfields : fieldsDistinct fields = true)
    (hnone : (Fields.get? merged marker).bind patchOf? = none)
    (hparts : ∀ f ∈ fields, f.1 ≠ marker →
      ((expandLevels limit levels ((covers.filterMap (·.get? f.1)).foldl merge f.2)).isOk = true ↔
        nesting (covers.filterMap (·.get? f.1)) f.2 ≤ levels)) :
    (expandLevels limit levels (.obj merged)).isOk = true ↔
      fieldsNesting covers fields ≤ levels := by
  obtain ⟨inner, hinner⟩ := exists_expandLevels_eq limit levels
  rw [hinner] at hparts ⊢
  rw [isOk_expandWith_obj_iff hnone, fieldsNesting_le_iff]
  have hclean : ∀ w, lacksKey marker w = true → (expandWith inner w).isOk = true := by
    intro w hw
    rw [expandWith_of_lacksKey w hw]
    rfl
  rw [h.forall_expanded_iff hfields hclean]
  exact ⟨fun hall f hf hkey => (hparts f hf hkey).1 (hall f hf hkey),
    fun hall f hf hkey => (hparts f hf hkey).2 (hall f hf hkey)⟩

/-- An object with an overlay takes one level, and then as many as its values under the overlay. -/
theorem isOk_expandLevels_marked (h : Covered fields covers merged)
    (hfields : fieldsDistinct fields = true) {patch : List (String × Json)}
    (hpatch : (Fields.get? merged marker).bind patchOf? = some patch)
    (hcover : IsCover (.obj patch))
    (hparts : ∀ levels, ∀ f ∈ fields, f.1 ≠ marker →
      ((expandLevels limit levels
          (((covers ++ [Json.obj patch]).filterMap (·.get? f.1)).foldl merge f.2)).isOk = true ↔
        nesting ((covers ++ [Json.obj patch]).filterMap (·.get? f.1)) f.2 ≤ levels)) :
    (expandLevels limit levels (.obj merged)).isOk = true ↔
      fieldsNesting (covers ++ [.obj patch]) fields + 1 ≤ levels := by
  cases levels with
  | zero =>
    rw [expandLevels_zero_carrier limit hpatch]
    exact ⟨nofun, nofun⟩
  | succ levels =>
    have hnone := get?_marker_of_merged merged hcover
    rw [expandLevels_carrier limit levels hpatch, Nat.add_le_add_iff_right]
    exact isOk_expandLevels_fields (h.erase.merge hcover) hfields (by rw [hnone]; rfl)
      (hparts levels)

end

end

theorem lacksKey_foldl_arr {c : Json} {covers : List Json} (hcovers : ∀ u ∈ c :: covers, IsCover u)
    (items : List Json) : lacksKey marker ((c :: covers).foldl merge (.arr items)) = true := by
  rw [List.forall_mem_cons] at hcovers
  have hfirst : merge (.arr items) c = c := by cases c <;> simp [merge]
  rw [List.foldl_cons, hfirst]
  exact lacksKey_foldl_merge hcovers.2 hcovers.1.unmarked

/-- A flat value that others are merged into takes as many levels as its nesting under them. -/
theorem isOk_expandLevels_covered (limit : ℤ) (levels : ℕ) (v : Json) (covers : List Json)
    (hcovers : ∀ c ∈ covers, IsCover c) (hkeys : hasDistinctKeys v = true)
    (hflat : isFlat v = true) :
    (expandLevels limit levels (covers.foldl merge v)).isOk = true ↔ nesting covers v ≤ levels := by
  have hclean : ∀ {w}, lacksKey marker w = true → nesting covers v = 0 →
      ((expandLevels limit levels w).isOk = true ↔ nesting covers v ≤ levels) := by
    intro w hw hzero
    rw [expandLevels_of_lacksKey limit levels hw, hzero]
    exact ⟨fun _ => Nat.zero_le levels, fun _ => rfl⟩
  match v with
  | .null | .bool _ | .int _ | .float _ | .str _ =>
    exact hclean (lacksKey_foldl_merge hcovers rfl) rfl
  | .arr items =>
    cases covers with
    | cons c rest => exact hclean (lacksKey_foldl_arr hcovers items) rfl
    | nil =>
      refine isOk_expandLevels_items fun u hu => ?_
      have hdepth : u.depth < (Json.arr items).depth := depth_lt_of_mem_items hu
      exact isOk_expandLevels_covered limit levels u [] nofun
        (hereditary_hasDistinctKeys.item hkeys hu) (isFlat_of_mem_items hflat hu)
  | .obj fields =>
    have hparts : ∀ (covers : List Json), (∀ c ∈ covers, IsCover c) → ∀ levels, ∀ f ∈ fields,
        f.1 ≠ marker →
        ((expandLevels limit levels ((covers.filterMap (·.get? f.1)).foldl merge f.2)).isOk = true ↔
          nesting (covers.filterMap (·.get? f.1)) f.2 ≤ levels) := by
      intro covers hcovers levels f hf hkey
      have hdepth : f.2.depth < (Json.obj fields).depth := depth_lt_of_mem_fields hf
      exact isOk_expandLevels_covered limit levels f.2 _ (isCover_of_mem_filterMap hcovers f.1)
        (hereditary_hasDistinctKeys.field hkeys hf) (isFlat_of_mem hflat hf hkey)
    cases hobjects : covers.all isObject with
    | false =>
      have hzero : nesting covers (.obj fields) = 0 := by simp [nesting, hobjects]
      exact hclean (lacksKey_foldl_of_not_object hcovers hobjects _) hzero
    | true =>
      obtain ⟨merged, hmerged, hcovered, hmarker⟩ := Covered.exists_foldl hkeys hcovers hobjects
      rw [hmerged]
      cases hpatch : (Fields.get? fields marker).bind patchOf? with
      | none =>
        have hnesting : nesting covers (.obj fields) = fieldsNesting covers fields := by
          simp [nesting, hobjects, hpatch]
        rw [hnesting]
        exact isOk_expandLevels_fields hcovered hkeys (hmarker ▸ hpatch)
          (hparts covers hcovers levels)
      | some patch =>
        have hcover : IsCover (.obj patch) := isCover_of_patch hkeys hflat hpatch
        have hnesting : nesting covers (.obj fields) =
            fieldsNesting (covers ++ [.obj patch]) fields + 1 := by
          simp [nesting, hobjects, hpatch]
        have hall : ∀ c ∈ covers ++ [.obj patch], IsCover c :=
          List.forall_mem_append.2 ⟨hcovers, List.forall_mem_singleton.2 hcover⟩
        rw [hnesting]
        exact isOk_expandLevels_marked hcovered hkeys (hmarker ▸ hpatch) hcover (hparts _ hall)
termination_by v.depth

/-! ## The limit -/

/-- Objects inside one another, each with an overlay of its own that brings in none. -/
def tower : ℕ → Json
  | 0 => .obj []
  | n + 1 => .obj [("a", tower n), (marker, .obj [("b", .null)])]

theorem nesting_tower (n : ℕ) : nesting [] (tower n) = n := by
  induction n with
  | zero => rfl
  | succ n ih =>
    have hstep : nesting [] (tower (n + 1)) = max (nesting [] (tower n)) 0 + 1 := rfl
    rw [hstep, ih, Nat.max_zero]

theorem hasDistinctKeys_tower (n : ℕ) : hasDistinctKeys (tower n) = true := by
  induction n with
  | zero => rfl
  | succ n ih => simp [tower, hasDistinctKeys, fieldsDistinct, ih, Fields.has, Fields.get?, marker]

theorem isFlat_tower (n : ℕ) : isFlat (tower n) = true := by
  induction n with
  | zero => rfl
  | succ n ih => simp [tower, isFlat, haveFlat, ih, patchOf?, fieldsLackKey, lacksKey, marker]

/-- No limit is enough for all flat values. -/
theorem exists_flat_beyond (limit : ℤ) :
    ∃ v, hasDistinctKeys v = true ∧ isFlat v = true ∧ (expand limit v).isOk = false := by
  have hkeys := hasDistinctKeys_tower (limit.toNat + 1)
  have hflat := isFlat_tower (limit.toNat + 1)
  refine ⟨tower (limit.toNat + 1), hkeys, hflat, ?_⟩
  have hiff := isOk_expandLevels_covered limit limit.toNat _ [] nofun hkeys hflat
  rw [List.foldl_nil, nesting_tower] at hiff
  rw [← Bool.not_eq_true, expand, hiff]
  omega

/-- Where no overlay brings in overlays, the limit counts the objects with overlays that lie inside
one another and are not overwritten. -/
theorem expand_isOk_iff_nesting_le {v : Json} (hkeys : hasDistinctKeys v = true)
    (hflat : isFlat v = true) (limit : ℤ) :
    (expand limit v).isOk = true ↔ nesting [] v ≤ limit.toNat :=
  isOk_expandLevels_covered limit limit.toNat v [] nofun hkeys hflat

/-- An object with an overlay, inside of another one with an overlay for another key. -/
theorem expand_isOk_iff_nesting_le_two :
    let v := Json.obj [("a", .obj [(marker, .obj [("y", .int 1)])]), (marker, .obj [("x", .int 1)])]
    hasDistinctKeys v = true ∧ isFlat v = true ∧ (expand 1 v).isOk = false ∧
      (expand 2 v).isOk = true := by
  intro v
  have hkeys : hasDistinctKeys v = true := by decide
  have hflat : isFlat v = true := by decide
  have hiff := expand_isOk_iff_nesting_le hkeys hflat
  refine ⟨hkeys, hflat, ?_, (hiff 2).2 (by decide)⟩
  rw [← Bool.not_eq_true, hiff 1]
  decide

end FlexForm.Overlay
