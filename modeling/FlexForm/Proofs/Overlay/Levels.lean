import FlexForm.Proofs.Json.Size
import FlexForm.Proofs.Overlay

/-! # How many levels an expansion takes

An overlay that is merged takes its marker out of the value, so the value that is expanded from the
start is smaller than the one before, whatever the overlay brings in. An expansion with as many
levels as the size of the value therefore never comes to its limit, and one that does not come to
its limit gives the same with more levels.

* `exists_expandLevels`: levels that are enough.
* `expandLevels_of_le`: more levels change nothing.
* `expand_cut_off`: the limit decides whether a value comes out, and never which.
-/

namespace FlexForm.Overlay
set_option autoImplicit false

open Json

/-! ## Objects with an overlay -/

section
variable {fields patch : List (String × Json)}

/-- An overlay is merged at the cost of one level. -/
theorem expandLevels_carrier (limit : ℤ) (levels : ℕ)
    (h : (Fields.get? fields marker).bind patchOf? = some patch) :
    expandLevels limit (levels + 1) (.obj fields) =
      expandLevels limit levels (.obj (mergeFields (Fields.erase fields marker) patch)) :=
  expandWith_carrier h

theorem expandLevels_zero_carrier (limit : ℤ)
    (h : (Fields.get? fields marker).bind patchOf? = some patch) :
    expandLevels limit 0 (.obj fields) = .error ⟨limit⟩ :=
  expandWith_carrier h

end

/-! ## Smaller values -/

theorem size_le_of_patchOf? {v : Json} {patch : List (String × Json)}
    (h : patchOf? v = some patch) : fieldsSize patch ≤ size v := by
  unfold patchOf? at h
  split at h
  next fields hread =>
    cases h
    have hsize := size_readMaybe_le v
    rwa [hread] at hsize
  next => cases h

theorem size_merged_lt {fields patch : List (String × Json)}
    (h : (Fields.get? fields marker).bind patchOf? = some patch) :
    size (.obj (mergeFields (Fields.erase fields marker) patch)) < size (.obj fields) := by
  obtain ⟨v, hv, hpatch⟩ := Option.bind_eq_some_iff.1 h
  have hmerge := size_merge_le (.obj (Fields.erase fields marker)) (.obj patch)
  have herase := fieldsSize_erase_lt fields marker hv
  have hbrought := size_le_of_patchOf? hpatch
  rw [merge] at hmerge
  simp only [size] at hmerge ⊢
  omega

/-! ## Enough levels -/

section
variable {inner : Json → Except TooDeep Json}

mutual

theorem exists_expandWith (v : Json) (h : ∀ u, size u < size v → ∃ w, inner u = .ok w) :
    ∃ w, expandWith inner v = .ok w := by
  match v with
  | .null | .bool _ | .int _ | .float _ | .str _ => exact ⟨_, rfl⟩
  | .arr items =>
    obtain ⟨more, hmore⟩ := exists_expandItems items h
    exact ⟨_, expandWith_arr hmore⟩
  | .obj fields =>
    cases hpatch : (Fields.get? fields marker).bind patchOf? with
    | some patch =>
      obtain ⟨w, hw⟩ := h _ (size_merged_lt hpatch)
      exact ⟨w, (expandWith_carrier hpatch).trans hw⟩
    | none =>
      obtain ⟨more, hmore⟩ := exists_expandFields fields h
      exact ⟨.obj more, expandWith_plain hpatch hmore⟩

theorem exists_expandItems (items : List Json)
    (h : ∀ u, size u < itemsSize items → ∃ w, inner u = .ok w) :
    ∃ more, expandItems inner items = .ok more := by
  match items with
  | [] => exact ⟨[], rfl⟩
  | v :: rest =>
    rw [itemsSize] at h
    obtain ⟨w, hw⟩ := exists_expandWith v fun u hu => h u (by omega)
    obtain ⟨more, hmore⟩ := exists_expandItems rest fun u hu => h u (by omega)
    exact ⟨w :: more, expandItems_cons_eq_ok_iff.2 ⟨w, more, hw, hmore, rfl⟩⟩

theorem exists_expandFields (fields : List (String × Json))
    (h : ∀ u, size u < fieldsSize fields → ∃ w, inner u = .ok w) :
    ∃ more, expandFields inner fields = .ok more := by
  match fields with
  | [] => exact ⟨[], rfl⟩
  | (key, v) :: rest =>
    rw [fieldsSize] at h
    obtain ⟨more, hmore⟩ := exists_expandFields rest fun u hu => h u (by omega)
    rcases eq_or_ne key marker with rfl | hkey
    · exact ⟨more, expandFields_marker.trans hmore⟩
    · obtain ⟨w, hw⟩ := exists_expandWith v fun u hu => h u (by omega)
      exact ⟨(key, w) :: more, (expandFields_cons_eq_ok_iff hkey).2 ⟨w, more, hw, hmore, rfl⟩⟩

end

end

/-- As many levels as the size of the value are enough. -/
theorem exists_expandLevels (limit : ℤ) {levels : ℕ} {v : Json} (h : size v ≤ levels) :
    ∃ w, expandLevels limit levels v = .ok w := by
  induction levels generalizing v with
  | zero => exact exists_expandWith v fun u hu => by omega
  | succ levels ih => exact exists_expandWith v fun u hu => ih (by omega)

/-! ## More levels -/

section
variable {inner further : Json → Except TooDeep Json}

mutual

/-- An expansion that goes further gives all that the other one gives. -/
theorem expandWith_further (h : ∀ u w, inner u = .ok w → further u = .ok w) (v : Json) {w : Json}
    (hv : expandWith inner v = .ok w) : expandWith further v = .ok w := by
  match v with
  | .null | .bool _ | .int _ | .float _ | .str _ => exact hv
  | .arr items =>
    obtain ⟨more, hmore, rfl⟩ := expandWith_arr_eq_ok_iff.1 hv
    exact expandWith_arr (expandItems_further h items hmore)
  | .obj fields =>
    obtain ⟨patch, hpatch, hv⟩ | ⟨hpatch, more, hmore, rfl⟩ := expandWith_obj_eq_ok_iff.1 hv
    · exact (expandWith_carrier hpatch).trans (h _ _ hv)
    · exact expandWith_plain hpatch (expandFields_further h fields hmore)

theorem expandItems_further (h : ∀ u w, inner u = .ok w → further u = .ok w) (items : List Json)
    {more : List Json} (hitems : expandItems inner items = .ok more) :
    expandItems further items = .ok more := by
  match items with
  | [] => exact hitems
  | v :: rest =>
    obtain ⟨w, others, hw, hothers, rfl⟩ := expandItems_cons_eq_ok_iff.1 hitems
    exact expandItems_cons_eq_ok_iff.2
      ⟨w, others, expandWith_further h v hw, expandItems_further h rest hothers, rfl⟩

theorem expandFields_further (h : ∀ u w, inner u = .ok w → further u = .ok w)
    (fields : List (String × Json)) {more : List (String × Json)}
    (hfields : expandFields inner fields = .ok more) : expandFields further fields = .ok more := by
  match fields with
  | [] => exact hfields
  | (key, v) :: rest =>
    rcases eq_or_ne key marker with rfl | hkey
    · rw [expandFields_marker] at hfields ⊢
      exact expandFields_further h rest hfields
    · obtain ⟨w, others, hw, hothers, rfl⟩ := (expandFields_cons_eq_ok_iff hkey).1 hfields
      exact (expandFields_cons_eq_ok_iff hkey).2
        ⟨w, others, expandWith_further h v hw, expandFields_further h rest hothers, rfl⟩

end

end

/-- More levels give what fewer levels give. -/
theorem expandLevels_of_le {limit other : ℤ} {levels more : ℕ} (hle : levels ≤ more) {v w : Json}
    (h : expandLevels limit levels v = .ok w) : expandLevels other more v = .ok w := by
  induction levels generalizing more v w with
  | zero =>
    cases more with
    | zero => exact expandWith_further (fun _ _ h => by cases h) v h
    | succ more => exact expandWith_further (fun _ _ h => by cases h) v h
  | succ levels ih =>
    cases more with
    | zero => omega
    | succ more => exact expandWith_further (fun _ _ h => ih (by omega) h) v h

/-! ## The limit -/

/-- A larger limit gives the same value, every value comes out with a limit that is large enough,
and one without markers comes out unchanged with any limit. -/
theorem expand_cut_off :
    (∀ limit more v w, limit ≤ more → expand limit v = .ok w → expand more v = .ok w) ∧
    (∀ v limit, (size v : ℤ) ≤ limit → ∃ w, expand limit v = .ok w) ∧
    ∀ limit v, lacksKey marker v = true → expand limit v = .ok v := by
  refine ⟨?_, ?_, ?_⟩
  · intro limit more v w hle h
    exact expandLevels_of_le (Int.toNat_le_toNat hle) h
  · intro v limit hsize
    have henough : size v ≤ limit.toNat := by omega
    exact exists_expandLevels limit henough
  · intro limit v h
    exact expand_of_lacksKey limit h

/-- A text under a marker that brings in one more marker. -/
def twoLevels : Json :=
  .obj [("a", .arr [.obj [(marker, .str
    "\x7b\"b\": 1, \"__patch\": \x7b\"c\": [2]\x7d\x7d"), ("b", .null)]])]

theorem expand_cut_off_twoLevels :
    ∃ w, expand 2 twoLevels = .ok w ∧ expand 32 twoLevels = .ok w ∧ size twoLevels ≤ 40 ∧
      (∃ u, expand 40 twoLevels = .ok u) ∧ lacksKey marker w = true ∧ expand 0 w = .ok w := by
  have hsize : size twoLevels ≤ 40 := by decide
  have hresult : (expand 2 twoLevels).toOption.any (lacksKey marker) = true := by decide +kernel
  cases hw : expand 2 twoLevels with
  | error fault =>
    rw [hw] at hresult
    cases hresult
  | ok w =>
    rw [hw] at hresult
    have hlacks : lacksKey marker w = true := hresult
    obtain ⟨hsame, hcomes, hunchanged⟩ := expand_cut_off
    exact ⟨w, rfl, hsame 2 32 twoLevels w (by decide) hw, hsize,
      hcomes twoLevels 40 (by exact_mod_cast hsize), hlacks, hunchanged 0 w hlacks⟩

end FlexForm.Overlay
