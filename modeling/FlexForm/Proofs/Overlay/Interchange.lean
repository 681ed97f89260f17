import FlexForm.Proofs.Overlay.Nesting
import FlexForm.Proofs.Overlay.Spellings

/-! # When the spelling of overlays is of no account

The overlays of a value can be spelled as objects or as texts, and an expansion gives the same as
long as none of its merges brings a text to a marker or a marker to a text. This is so in particular
when no overlay brings in overlays. Where it happens, the first of the two overlays is lost.

* `Merges`, `NeverClash`: the merges of an expansion, and that none of them loses an overlay.
* `expandLevels_respelled`: other spellings come to the same at every level.
* `neverClash_of_isFlat`: nothing clashes when no overlay brings in overlays.
* `expand_crossing`: what comes out when an overlay brings a marker to a place that has one.
* `expand_respelled`: when another spelling gives the same.
-/

namespace FlexForm.Overlay
set_option autoImplicit false

open Json

/-! ## Merges of an expansion -/

/-- Expanding the value merges the patch into the base, at this place or further inside, at once or
after other overlays. -/
inductive Merges : Json → Json → Json → Prop
  | here {fields patch : List (String × Json)}
      (h : (Fields.get? fields marker).bind patchOf? = some patch) :
      Merges (.obj fields) (.obj (Fields.erase fields marker)) (.obj patch)
  | again {fields patch : List (String × Json)} {base more : Json}
      (h : (Fields.get? fields marker).bind patchOf? = some patch)
      (hmore : Merges (.obj (mergeFields (Fields.erase fields marker) patch)) base more) :
      Merges (.obj fields) base more
  | item {items : List Json} {v base patch : Json} (hv : v ∈ items) (h : Merges v base patch) :
      Merges (.arr items) base patch
  | field {fields : List (String × Json)} {f : String × Json} {base patch : Json}
      (hnone : (Fields.get? fields marker).bind patchOf? = none) (hf : f ∈ fields)
      (hkey : f.1 ≠ marker) (h : Merges f.2 base patch) : Merges (.obj fields) base patch

/-- No overlay is lost when the value is expanded. -/
def NeverClash (v : Json) : Prop := ∀ base patch, Merges v base patch → ¬ Clashes base patch

theorem neverClash_arr_iff {items : List Json} :
    NeverClash (.arr items) ↔ ∀ v ∈ items, NeverClash v := by
  constructor
  · intro h v hv base patch hmerges
    exact h base patch (.item hv hmerges)
  · intro h base patch hmerges
    cases hmerges with
    | item hv hmerges => exact h _ hv base patch hmerges

section
variable {fields : List (String × Json)}

theorem neverClash_obj_iff_of_none (hnone : (Fields.get? fields marker).bind patchOf? = none) :
    NeverClash (.obj fields) ↔ ∀ f ∈ fields, f.1 ≠ marker → NeverClash f.2 := by
  constructor
  · intro h f hf hkey base patch hmerges
    exact h base patch (.field hnone hf hkey hmerges)
  · intro h base patch hmerges
    cases hmerges with
    | here hpatch | again hpatch =>
      rw [hnone] at hpatch
      cases hpatch
    | field _ hf hkey hmerges => exact h _ hf hkey base patch hmerges

theorem neverClash_obj_iff_of_some {patch : List (String × Json)}
    (hpatch : (Fields.get? fields marker).bind patchOf? = some patch) :
    NeverClash (.obj fields) ↔ ¬ Clashes (.obj (Fields.erase fields marker)) (.obj patch) ∧
      NeverClash (.obj (mergeFields (Fields.erase fields marker) patch)) := by
  constructor
  · intro h
    exact ⟨h _ _ (.here hpatch), fun base more hmerges => h base more (.again hpatch hmerges)⟩
  · rintro ⟨hhere, hagain⟩ base more hmerges
    cases hmerges with
    | here hsame =>
      rw [hpatch] at hsame
      cases hsame
      exact hhere
    | again hsame hmerges =>
      rw [hpatch] at hsame
      cases hsame
      exact hagain base more hmerges
    | field hnone =>
      rw [hpatch] at hnone
      cases hnone

end

/-! ## Expanding another spelling -/

/-- The expansion gives the same for other spellings in which nothing clashes. -/
def Agrees (expansion : Json → Except TooDeep Json) : Prop :=
  ∀ {v w}, hasDistinctKeys v = true → Respelled v w → NeverClash w → expansion w = expansion v

section
variable {inner : Json → Except TooDeep Json}

mutual

theorem expandWith_respelled (hinner : Agrees inner) (v : Json) {w : Json}
    (hkeys : hasDistinctKeys v = true) (h : Respelled v w) (hapart : NeverClash w) :
    expandWith inner w = expandWith inner v := by
  match v with
  | .null | .bool _ | .int _ | .float _ | .str _ =>
    cases h
    rfl
  | .arr items =>
    cases h with
    | same hkind => cases hkind
    | arr hitems =>
      rw [expandWith, expandWith,
        expandItems_respelled hinner items hkeys hitems (neverClash_arr_iff.1 hapart)]
  | .obj fields =>
    cases h with
    | same hkind => cases hkind
    | @obj _ others hfields =>
      obtain ⟨hnone, hnone'⟩ | ⟨v, w, hv, hw, hat⟩ := hfields.get? marker
      · rw [expandWith, expandWith, hnone, hnone', Option.bind_none]
        have hparts := (neverClash_obj_iff_of_none (by rw [hnone']; rfl)).1 hapart
        simp only [expandFields_respelled hinner fields hkeys hfields hparts]
      · cases hat with
        | value hkey => exact absurd rfl hkey
        | @overlay patch read _ hread hpatch =>
          have hown : (Fields.get? fields marker).bind patchOf? = some patch := by rw [hv]; rfl
          have hother : (Fields.get? others marker).bind patchOf? = some read := by
            rw [hw]
            exact hread
          have hobject : hasDistinctKeys (.obj fields) = true := hkeys
          have hpatchKeys : hasDistinctKeys (.obj patch) = true :=
            hereditary_hasDistinctKeys.get? hobject hv
          have herased := fieldsDistinct_erase marker hkeys
          -- Both overlays are merged, and what comes of it is one value in two spellings again.
          obtain ⟨hhere, hagain⟩ := (neverClash_obj_iff_of_some hother).1 hapart
          have hmerged := respelledFields_merge (hfields.erase marker) patch hpatch hpatchKeys hhere
          rw [expandWith_carrier hown, expandWith_carrier hother]
          exact hinner (fieldsDistinct_mergeFields patch herased hpatchKeys) (.obj hmerged) hagain

theorem expandItems_respelled (hinner : Agrees inner) (items : List Json) {others : List Json}
    (hkeys : haveDistinctKeys items = true) (h : RespelledItems items others)
    (hapart : ∀ w ∈ others, NeverClash w) : expandItems inner others = expandItems inner items := by
  match items with
  | [] =>
    cases h
    rfl
  | v :: rest =>
    cases h with
    | cons hvw hrest =>
      rw [haveDistinctKeys, Bool.and_eq_true] at hkeys
      rw [List.forall_mem_cons] at hapart
      rw [expandItems, expandItems, expandWith_respelled hinner v hkeys.1 hvw hapart.1,
        expandItems_respelled hinner rest hkeys.2 hrest hapart.2]

theorem expandFields_respelled (hinner : Agrees inner) (fields : List (String × Json))
    {others : List (String × Json)} (hkeys : fieldsDistinct fields = true)
    (h : RespelledFields fields others) (hapart : ∀ f ∈ others, f.1 ≠ marker → NeverClash f.2) :
    expandFields inner others = expandFields inner fields := by
  match fields with
  | [] =>
    cases h
    rfl
  | (key, v) :: rest =>
    cases h with
    | cons hat hrest =>
      simp only [fieldsDistinct, Bool.and_eq_true] at hkeys
      rw [List.forall_mem_cons] at hapart
      have hmore := expandFields_respelled hinner rest hkeys.2 hrest hapart.2
      rw [expandFields, expandFields, hmore]
      cases hat with
      | overlay => rw [if_pos rfl, if_pos rfl]
      | value hkey hvw =>
        rw [expandWith_respelled hinner v hkeys.1.2 hvw (hapart.1 hkey)]

end

end

/-- As long as nothing clashes, all spellings come to the same, at every level. -/
theorem expandLevels_respelled (limit : ℤ) (levels : ℕ) : Agrees (expandLevels limit levels) := by
  induction levels with
  | zero =>
    intro v w hkeys h hapart
    exact expandWith_respelled (fun _ _ _ => rfl) v hkeys h hapart
  | succ levels ih =>
    intro v w hkeys h hapart
    exact expandWith_respelled ih v hkeys h hapart

/-! ## Values whose overlays bring in none -/

mutual

theorem isFlat_of_lacksKey (v : Json) (h : lacksKey marker v = true) : isFlat v = true := by
  match v with
  | .null | .bool _ | .int _ | .float _ | .str _ => rfl
  | .arr items => exact areFlat_of_lackKey items h
  | .obj fields => exact haveFlat_of_lackKey fields h

theorem areFlat_of_lackKey (items : List Json) (h : itemsLackKey marker items = true) :
    areFlat items = true := by
  match items with
  | [] => rfl
  | v :: rest =>
    rw [itemsLackKey, Bool.and_eq_true] at h
    rw [areFlat, isFlat_of_lacksKey v h.1, areFlat_of_lackKey rest h.2]
    rfl

theorem haveFlat_of_lackKey (fields : List (String × Json))
    (h : fieldsLackKey marker fields = true) : haveFlat fields = true := by
  match fields with
  | [] => rfl
  | (key, v) :: rest =>
    obtain ⟨hkey, hv, hrest⟩ := fieldsLackKey_cons.1 h
    rw [haveFlat, if_neg hkey, isFlat_of_lacksKey v hv, haveFlat_of_lackKey rest hrest]
    rfl

end

theorem haveFlat_erase {fields : List (String × Json)} (key : String)
    (h : haveFlat fields = true) : haveFlat (Fields.erase fields key) = true := by
  induction fields with
  | nil => rfl
  | cons f rest ih =>
    obtain ⟨k, v⟩ := f
    rw [haveFlat, Bool.and_eq_true] at h
    rw [Fields.erase_cons]
    by_cases hk : k = key
    · rw [if_pos hk, ih h.2]
    · rw [if_neg hk, haveFlat, h.1, ih h.2]
      rfl

theorem haveFlat_insert {fields : List (String × Json)} {key : String} {v : Json}
    (h : haveFlat fields = true) (hkey : key ≠ marker) (hv : isFlat v = true) :
    haveFlat (Fields.insert fields key v) = true := by
  induction fields with
  | nil => simp [Fields.insert, haveFlat, hkey, hv]
  | cons f rest ih =>
    obtain ⟨k, w⟩ := f
    rw [haveFlat, Bool.and_eq_true] at h
    rw [Fields.insert]
    by_cases hk : k = key
    · rw [if_pos hk, haveFlat, if_neg (hk ▸ hkey), hv, h.2]
      rfl
    · rw [if_neg hk, haveFlat, h.1, ih h.2]
      rfl

mutual

theorem isFlat_merge {base : Json} (patch : Json) (hbase : isFlat base = true)
    (hpatch : lacksKey marker patch = true) : isFlat (merge base patch) = true := by
  match patch with
  | .obj more =>
    cases base with
    | obj fields => exact haveFlat_mergeFields more hbase hpatch
    | null | bool | int | float | str | arr => exact isFlat_of_lacksKey _ hpatch
  | .null | .bool _ | .int _ | .float _ | .str _ | .arr _ => exact isFlat_of_lacksKey _ hpatch

theorem haveFlat_mergeFields {fields : List (String × Json)} (patch : List (String × Json))
    (hfields : haveFlat fields = true) (hpatch : fieldsLackKey marker patch = true) :
    haveFlat (mergeFields fields patch) = true := by
  match patch with
  | [] => exact hfields
  | (key, v) :: rest =>
    obtain ⟨hkey, hv, hrest⟩ := fieldsLackKey_cons.1 hpatch
    rw [mergeFields]
    refine haveFlat_mergeFields rest (haveFlat_insert hfields hkey ?_) hrest
    cases hold : Fields.get? fields key with
    | none => exact isFlat_of_lacksKey v hv
    | some old =>
      have hflat : isFlat old = true := isFlat_of_mem hfields (Fields.mem_of_get? hold) hkey
      exact isFlat_merge v hflat hv

end

/-- All that is merged when a flat value is expanded is without markers. -/
theorem lacksKey_of_merges {v base patch : Json} (hflat : isFlat v = true)
    (h : Merges v base patch) : lacksKey marker patch = true := by
  induction h with
  | here hpatch => exact fieldsLackKey_of_patch hflat hpatch
  | again hpatch _ ih =>
    exact ih (haveFlat_mergeFields _ (haveFlat_erase marker hflat)
      (fieldsLackKey_of_patch hflat hpatch))
  | item hv _ ih => exact ih (isFlat_of_mem_items hflat hv)
  | field _ hf hkey _ ih => exact ih (isFlat_of_mem hflat hf hkey)

theorem neverClash_of_isFlat {v : Json} (h : isFlat v = true) : NeverClash v := by
  intro base patch hmerges
  exact not_clashes_of_lacksKey (lacksKey_of_merges h hmerges)

/-! ## A marker that is brought to another one -/

/-- An object with an overlay that brings a marker to a place which has one. -/
def crossing (key : String) (own brought : List (String × Json)) (x y : Json) : Json :=
  .obj [(key, .obj (own ++ [(marker, x)])), (marker, .obj [(key, .obj (brought ++ [(marker, y)]))])]

section
variable {key : String} {own brought : List (String × Json)} {x y : Json}

theorem expandLevels_crossing (hkey : key ≠ marker) (limit : ℤ) (levels : ℕ) :
    expandLevels limit (levels + 1) (crossing key own brought x y) =
      expandLevels limit levels (.obj [(key, .obj
        (mergeFields (own ++ [(marker, x)]) (brought ++ [(marker, y)])))]) := by
  have hpatch : (Fields.get? [(key, Json.obj (own ++ [(marker, x)])),
      (marker, .obj [(key, .obj (brought ++ [(marker, y)]))])] marker).bind patchOf? =
        some [(key, .obj (brought ++ [(marker, y)]))] := by
    rw [Fields.get?_cons, if_neg hkey, Fields.get?_cons, if_pos rfl]
    rfl
  have herase : Fields.erase [(key, Json.obj (own ++ [(marker, x)])),
      (marker, .obj [(key, .obj (brought ++ [(marker, y)]))])] marker =
        [(key, .obj (own ++ [(marker, x)]))] := by
    simp [Fields.erase, hkey]
  rw [crossing, expandLevels_carrier limit levels hpatch, herase]
  simp [mergeFields, merge, Fields.get?_cons, Fields.insert]

/-- What comes out has the two objects merged, and then the overlay to which the markers were. -/
theorem expand_crossing (hkey : key ≠ marker) {fields : List (String × Json)}
    (hread : patchOf? (merge x y) = some fields)
    (hkeys : (Fields.keys (brought ++ [(marker, y)])).Nodup)
    (hown : fieldsLackKey marker own = true) (hbrought : fieldsLackKey marker brought = true)
    (hfields : fieldsLackKey marker fields = true) {limit : ℤ} (hlimit : 2 ≤ limit) :
    expand limit (crossing key own brought x y) =
      .ok (.obj [(key, .obj (mergeFields (mergeFields own brought) fields))]) := by
  obtain ⟨levels, hlevels⟩ : ∃ levels, limit.toNat = levels + 2 := ⟨limit.toNat - 2, by omega⟩
  have hpatch : (Fields.get? (mergeFields (own ++ [(marker, x)]) (brought ++ [(marker, y)]))
      marker).bind patchOf? = some fields := by
    rw [get?_mergeFields hkeys, get?_marked x hown, get?_marked y hbrought]
    exact hread
  have herase : Fields.erase (mergeFields (own ++ [(marker, x)]) (brought ++ [(marker, y)]))
      marker = mergeFields own brought := by
    rw [erase_mergeFields, erase_marked x hown, erase_marked y hbrought]
  have hnone : ∀ u : Json, Fields.get? [(key, u)] marker = none := by
    intro u
    rw [Fields.get?_cons, if_neg hkey, Fields.get?_nil]
  have hlacks : lacksKey marker (.obj (mergeFields (mergeFields own brought) fields)) = true :=
    fieldsLackKey_mergeFields fields (fieldsLackKey_mergeFields brought hown hbrought) hfields
  rw [expand, hlevels, expandLevels_crossing hkey]
  refine expandWith_obj (hnone _) (expandFields_single hkey ?_)
  rw [expandWith_carrier hpatch, herase, expandLevels_of_lacksKey limit levels hlacks]

end

/-! ## Both spellings -/

/-- Another spelling gives the same if nothing clashes. Where an overlay brings a marker to one, it
gives the same only if both are objects or the first had nothing to add to what is there. -/
theorem expand_respelled {v w : Json} (hkeys : hasDistinctKeys v = true) (h : Respelled v w)
    (limit : ℤ) :
    (NeverClash w → expand limit w = expand limit v) ∧
    ∀ key own brought x y first second, v = crossing key own brought (.obj first) (.obj second) →
      w = crossing key own brought x y → key ≠ marker →
      lacksKey marker (.obj own) = true → lacksKey marker (.obj brought) = true →
      lacksKey marker (.obj first) = true → lacksKey marker (.obj second) = true →
      patchOf? x = some first → patchOf? y = some second → 2 ≤ limit →
      (expand limit w = expand limit v ↔ (x.isObject && y.isObject) = true ∨
        mergeFields (mergeFields own brought) (mergeFields first second) =
          mergeFields (mergeFields own brought) second) := by
  refine ⟨expandLevels_respelled limit limit.toNat hkeys h, ?_⟩
  rintro key own brought x y first second rfl rfl hkey hown hbrought hfirst hsecond hx hy hlimit
  have hdistinct : (Fields.keys (brought ++ [(marker, .obj second)])).Nodup := by
    have hplace : (crossing key own brought (.obj first) (.obj second)).under? [marker, key] =
        some (.obj (brought ++ [(marker, .obj second)])) := by
      simp [crossing, under?, Json.get?, Fields.get?_cons, hkey]
    exact nodup_keys_of_fieldsDistinct (hereditary_hasDistinctKeys.under? hkeys hplace)
  have hsame : Fields.keys (brought ++ [(marker, y)]) =
      Fields.keys (brought ++ [(marker, .obj second)]) := by
    simp [Fields.keys]
  have hboth : fieldsLackKey marker (mergeFields first second) = true :=
    fieldsLackKey_mergeFields second hfirst hsecond
  have hobjects := expand_crossing (x := .obj first) hkey rfl hdistinct hown hbrought hboth hlimit
  have hread := patchOf?_merge hx hy
  rw [← hsame] at hdistinct
  rw [hobjects]
  by_cases hkind : (x.isObject && y.isObject) = true
  · rw [if_pos hkind] at hread
    rw [expand_crossing hkey hread hdistinct hown hbrought hboth hlimit]
    exact ⟨fun _ => .inl hkind, fun _ => rfl⟩
  · rw [if_neg hkind] at hread
    rw [expand_crossing hkey hread hdistinct hown hbrought hsecond hlimit]
    simp [hkind, eq_comm]

/-- An overlay that brings in one more, and two that come together as an object and as a text. -/
theorem expand_respelled_text :
    let inside := [("a", Json.null), (marker, .obj [("b", .str "c")])]
    let whole := fun overlay => Json.obj [("b", .bool true), (marker, overlay)]
    let own := [("x", Json.null)]
    let first := [("x", Json.bool true)]
    let second := [("y", Json.null)]
    let written := fun fields => Json.str (text (.obj fields))
    Respelled (whole (.obj inside)) (whole (written inside)) ∧
      NeverClash (whole (written inside)) ∧
      expand 2 (whole (written inside)) = expand 2 (whole (.obj inside)) ∧
      (expand 2 (whole (.obj inside))).isOk = true ∧
      Respelled (crossing "a" own [] (.obj first) (.obj second))
        (crossing "a" own [] (written first) (.obj second)) ∧
      expand 2 (crossing "a" own [] (written first) (.obj second)) ≠
        expand 2 (crossing "a" own [] (.obj first) (.obj second)) := by
  intro inside whole own first second written
  have hwritten : ∀ fields, hasDistinctKeys (.obj fields) = true → isFinite (.obj fields) = true →
      isWritable (.obj fields) = true → patchOf? (written fields) = some fields := by
    intro fields hkeys hfinite hwritable
    have hread := patchOf?_charsWith escapes_quoteChar hkeys hfinite hwritable
    rwa [charsWith_quoteChar] at hread
  have hfirst : patchOf? (written first) = some first := hwritten first rfl rfl rfl
  have hinside : patchOf? (written inside) = some inside := hwritten inside rfl rfl rfl
  have hwhole : Respelled (whole (.obj inside)) (whole (written inside)) := by
    have hinner : RespelledAt marker (.obj [("b", .str "c")]) (.obj [("b", .str "c")]) :=
      .overlay rfl (respelledFields_self _ rfl)
    have hpatch : RespelledFields inside inside :=
      .cons (.value (by decide) (.same rfl)) (.cons hinner .nil)
    exact .obj (.cons (.value (by decide) (.same rfl)) (.cons (.overlay hinside hpatch) .nil))
  have hcrossing : Respelled (crossing "a" own [] (.obj first) (.obj second))
      (crossing "a" own [] (written first) (.obj second)) := by
    have hown : RespelledAt marker (.obj first) (written first) :=
      .overlay hfirst (respelledFields_self first rfl)
    have hbrought : RespelledFields [("a", .obj [(marker, .obj second)])]
        [("a", .obj [(marker, .obj second)])] := by
      have hsecond : RespelledAt marker (.obj second) (.obj second) :=
        .overlay rfl (respelledFields_self second rfl)
      exact .cons (.value (by decide) (.obj (.cons hsecond .nil))) .nil
    have hchild : RespelledFields (own ++ [(marker, .obj first)])
        (own ++ [(marker, written first)]) :=
      .cons (.value (by decide) (.same rfl)) (.cons hown .nil)
    exact .obj (.cons (.value (by decide) (.obj hchild)) (.cons (.overlay rfl hbrought) .nil))
  have hapart : NeverClash (whole (written inside)) := by
    have hpatch : (Fields.get? [("b", .bool true), (marker, written inside)] marker).bind patchOf? =
        some inside := hinside
    have hhere : ¬ Clashes (.obj [("b", .bool true)]) (.obj inside) :=
      fun h => not_clashes_of_lacksKey rfl h.symm
    exact (neverClash_obj_iff_of_some hpatch).2 ⟨hhere, neverClash_of_isFlat rfl⟩
  refine ⟨hwhole, hapart, (expand_respelled rfl hwhole 2).1 hapart, by decide, hcrossing, ?_⟩
  have hiff := (expand_respelled rfl hcrossing 2).2 "a" own [] (written first) (.obj second) first
    second rfl rfl (by decide) rfl rfl rfl rfl hfirst rfl (by decide)
  rw [ne_eq, hiff]
  simp [mergeFields, own, first, second, written, isObject, Fields.insert, Fields.get?_cons, merge]

end FlexForm.Overlay
