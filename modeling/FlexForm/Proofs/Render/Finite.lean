import FlexForm.Proofs.Overlay.Sources
import FlexForm.Proofs.Render.Complete

/-! # Numbers of a message

The numbers of a message come from the text that is produced, from the texts of overlays, and from
an overlay object in the form data. The produced text is read strictly, which keeps the names of
special numbers out but not numerals beyond the finite numbers. The texts of overlays are not read
strictly at all.

* `OverlayText`: the texts that are read for overlays of a message.
* `leaves_complete`: each leaf of a message has its source.
* `Strictness`: what makes a message finite, and what keeps it from being so.
* `strictness_of_render`: every rendering that gives a message obeys it.
-/

namespace FlexForm.Render
set_option autoImplicit false

open Json Overlay

/-- The form data that is used: empty data of any kind is an empty object. -/
def dataUsed (data : Json) : Json := if data.isTruthy then data else .obj []

/-- A text that is read for an overlay of the value `v` that the produced text holds. -/
def OverlayText (v data : Json) (t : String) : Prop := Brought v t ∨ overlayOf data = some (.str t)

/-! ## The way of a message -/

theorem message_of_produce {mode : Mode} {text : String} {data : Json} {rendering : Rendering}
    (h : produce mode text data = .error rendering) : rendering.message = none := by
  cases mode with
  | grammar =>
    unfold produce byGrammar at h
    simp only at h
    split at h
    next refusal hrefused =>
      cases h
      cases refusal <;> rfl
    next =>
      unfold Except.mapError at h
      split at h <;> cases h
      rfl
  | legacy =>
    unfold produce byPlaceholders at h
    simp only at h
    split at h <;> cases h <;> rfl
  | raw => cases h

theorem complete_message {limit : ℤ} {data message : Json} {text : String}
    (h : (complete limit data text).message = some message) :
    ∃ v w, Json.read false text = .ok v ∧ expand limit v = .ok w ∧
      message = finish w ((overlayOf data).getD .null) := by
  unfold complete at h
  split at h
  next => cases h
  next v hread =>
    split at h
    next => cases h
    next w hexpand =>
      rw [at?_overlayPath] at h
      simp only at h
      split at h
      next => cases h
      next =>
        cases h
        exact ⟨v, w, hread, hexpand, rfl⟩

theorem render_message {limit : ℤ} {mode : Option Mode} {text : String} {data message : Json}
    (h : (render limit mode text data).message = some message) :
    ∃ out, produce (mode.getD (.detect text)) text (dataUsed data) = .ok out ∧
      (complete limit (dataUsed data) out).message = some message := by
  unfold render at h
  split at h
  next => cases h
  next =>
    have hused : (if data.isTruthy then data else .obj []) = dataUsed data := rfl
    cases hproduce : produce (mode.getD (.detect text)) text (dataUsed data) with
    | error rendering =>
      simp only [hused, hproduce, message_of_produce hproduce] at h
      cases h
    | ok out =>
      simp only [hused, hproduce] at h
      exact ⟨out, rfl, h⟩

theorem overlayOf_dataUsed (data : Json) : overlayOf (dataUsed data) = overlayOf data := by
  unfold dataUsed
  split
  next => rfl
  next hempty =>
    cases data with
    | obj fields =>
      cases fields with
      | nil => rfl
      | cons f rest => exact absurd rfl hempty
    | null | bool | int | float | str | arr => rfl

/-! ## Sources of the leaves -/

theorem leaves_overlayOf {data overlay : Json} (h : overlayOf data = some overlay)
    {leaf : Option String × Json} (hleaf : leaf ∈ overlay.leaves (some "messagePatch")) :
    leaf ∈ data.leaves none := by
  obtain ⟨advanced, hadvanced, hoverlay⟩ := Option.bind_eq_some_iff.1 h
  exact mem_leaves_of_get? hadvanced (mem_leaves_of_get? hoverlay hleaf)

/-- Each leaf of a message is one of the text, of the form data or of an overlay text. -/
theorem leaves_complete {limit : ℤ} {data v w : Json} (hexpand : expand limit v = .ok w)
    {leaf : Option String × Json}
    (hleaf : leaf ∈ (finish w ((overlayOf data).getD .null)).leaves none) :
    leaf ∈ v.leaves none ∨ leaf ∈ data.leaves none ∨
      ∃ t patch, OverlayText v data t ∧ patchOf? (.str t) = some patch ∧
        leaf ∈ fieldLeaves patch := by
  rcases leaves_finish hleaf with h | ⟨patch, hpatch, h⟩
  · cases expand_sources hexpand leaf h with
    | own h => exact .inl h
    | read ht hpatch h => exact .inr (.inr ⟨_, _, .inl ht, hpatch, h⟩)
  · cases hoverlay : overlayOf data with
    | none =>
      rw [hoverlay] at hpatch
      cases hpatch
    | some overlay =>
      rw [hoverlay, Option.getD_some] at hpatch
      rcases patchOf?_cases hpatch with rfl | ⟨t, rfl⟩
      · exact .inr (.inl (leaves_overlayOf hoverlay h))
      · exact .inr (.inr ⟨t, patch, .inr hoverlay, hpatch, h⟩)

/-! ## Finite messages -/

/-- How the numbers of a message depend on the value `v` that the produced text holds and on the
overlay texts. -/
structure Strictness (data v message : Json) : Prop where
  /-- No name of a special number is read in the produced text. -/
  numerals : ∀ leaf ∈ v.leaves none, IsNumber leaf
  /-- Texts with finite numbers only give a finite message. -/
  finite : v.isFinite = true →
    (∀ t patch, OverlayText v data t → patchOf? (.str t) = some patch →
      (Json.obj patch).isFinite = true) → message.isFinite = true
  /-- Without overlays the message is as finite as the produced text. -/
  plain : lacksKey marker v = true → (overlayOf data).bind patchOf? = none →
    message.isFinite = v.isFinite
  /-- A number of the overlay for the whole message that is not finite is kept. -/
  whole : ∀ patch, (overlayOf data).bind patchOf? = some patch → message.isObject = true →
    message.isFinite = true → (Json.obj patch).isFinite = true
  /-- So is one of an overlay text under a marker that no other overlay touches. -/
  marked : ∀ (position : Position) fields t patch, v = position.fill (.obj fields) →
    lacksKey marker (position.fill .null) = true → Fields.get? fields marker = some (.str t) →
    fieldsLackKey marker (Fields.erase fields marker) = true → patchOf? (.str t) = some patch →
    fieldsLackKey marker patch = true → (overlayOf data).bind patchOf? = none →
    message.isFinite = true → (Json.obj patch).isFinite = true

section
variable {limit : ℤ} {data v w : Json}

/-- What an overlay text at a place without other overlays holds stays in the expanded value. -/
theorem isFinite_of_marked (hexpand : expand limit v = .ok w) {position : Position}
    {fields patch : List (String × Json)} {t : String} (hv : v = position.fill (.obj fields))
    (haround : lacksKey marker (position.fill .null) = true)
    (hmarked : Fields.get? fields marker = some (.str t))
    (hfields : fieldsLackKey marker (Fields.erase fields marker) = true)
    (hpatch : patchOf? (.str t) = some patch) (hunmarked : fieldsLackKey marker patch = true)
    (hw : w.isFinite = true) : (Json.obj patch).isFinite = true := by
  have hcarrier : (Fields.get? fields marker).bind patchOf? = some patch := by
    rw [hmarked, Option.bind_some, hpatch]
  have hmerged : lacksKey marker (.obj (mergeFields (Fields.erase fields marker) patch)) = true :=
    fieldsLackKey_mergeFields patch hfields hunmarked
  unfold expand at hexpand
  cases hlevels : limit.toNat with
  | zero =>
    rw [hlevels, expandLevels, hv, expandWith_fill position _ haround,
      expandWith_carrier hcarrier] at hexpand
    cases hexpand
  | succ levels =>
    rw [hlevels, expandLevels, hv, expandWith_fill position _ haround,
      expandWith_carrier hcarrier, expandLevels_of_lacksKey limit levels hmerged] at hexpand
    cases hexpand
    have hplace := hereditary_isFinite.of_fill position hw
    refine isFinite_of_leaves (fun leaf h => ?_) hplace
    exact fieldLeaves_mergeFields_of_patch patch (fieldsDistinct_of_patchOf? hpatch) h

/-- What is read and expanded makes a message by the rules of finite numbers. -/
theorem strictness_of_expand {text : String} (hdata : data.isFinite = true)
    (hread : Json.read false text = .ok v) (hexpand : expand limit v = .ok w) :
    Strictness data v (finish w ((overlayOf data).getD .null)) where
  numerals := isNumber_of_read hread
  finite hv htexts := by
    refine (isFinite_iff_leaves none _).2 fun leaf hleaf => ?_
    rcases leaves_complete hexpand hleaf with h | h | ⟨t, patch, ht, hpatch, h⟩
    · exact (isFinite_iff_leaves none v).1 hv leaf h
    · exact (isFinite_iff_leaves none data).1 hdata leaf h
    · exact (isFinite_iff_leaves none _).1 (htexts t patch ht hpatch) leaf h
  plain hunmarked hoverlay := by
    rw [expand_of_lacksKey limit hunmarked] at hexpand
    cases hexpand
    rw [finish_of_no_overlay v hoverlay]
  whole patch hpatch hobject hfinite := by
    obtain ⟨overlay, hoverlay, hpatch⟩ := Option.bind_eq_some_iff.1 hpatch
    rw [hoverlay, Option.getD_some] at hobject hfinite
    rcases patchOf?_cases hpatch with rfl | ⟨t, rfl⟩
    · refine (isFinite_iff_leaves none _).2 fun leaf hleaf => ?_
      exact (isFinite_iff_leaves none data).1 hdata leaf (leaves_overlayOf hoverlay hleaf)
    · exact isFinite_of_leaves (fun leaf h => leaves_finish_of_overlay hpatch
        (fieldsDistinct_of_patchOf? hpatch) hobject h) hfinite
  marked position fields t patch hv haround hmarked hfields hpatch hunmarked hoverlay hfinite := by
    rw [finish_of_no_overlay w hoverlay] at hfinite
    exact isFinite_of_marked hexpand hv haround hmarked hfields hpatch hunmarked hfinite

end

/-- A message from finite form data has only the infinities that a numeral of the produced text or
an overlay text brings, and only the NaNs of overlay texts. -/
theorem strictness_of_render {limit : ℤ} {mode : Option Mode} {text : String}
    {data message : Json} (hdata : data.isFinite = true)
    (h : (render limit mode text data).message = some message) :
    ∃ out v, produce (mode.getD (.detect text)) text (dataUsed data) = .ok out ∧
      Json.read false out = .ok v ∧ Strictness data v message := by
  obtain ⟨out, hproduce, h⟩ := render_message h
  obtain ⟨v, w, hread, hexpand, rfl⟩ := complete_message h
  rw [overlayOf_dataUsed]
  exact ⟨out, v, hproduce, hread, strictness_of_expand hdata hread hexpand⟩

/-- A numeral beyond the finite numbers, and the name of a special number in an overlay text. -/
def overflowing : String := "\x7b\"a\": 1e400, \"__patch\": \"\x7b\\\"b\\\": NaN\x7d\"\x7d"

/-- Neither number is refused on the way into the message. -/
theorem strictness_of_render_overflowing :
    ∃ message, (render 32 (some .raw) overflowing (.obj [])).message = some message ∧
      ((message.get? "a").getD .null).isFinite = false ∧
      ((message.get? "b").getD .null).isFinite = false ∧
      ∃ out v, produce .raw overflowing (dataUsed (.obj [])) = .ok out ∧
        Json.read false out = .ok v ∧ Strictness (.obj []) v message := by
  let result := (render 32 (some .raw) overflowing (.obj [])).message
  have hsome : result.isSome = true := by decide +kernel
  have ha : (((result.getD .null).get? "a").getD .null).isFinite = false := by decide +kernel
  have hb : (((result.getD .null).get? "b").getD .null).isFinite = false := by decide +kernel
  obtain ⟨message, h⟩ := Option.isSome_iff_exists.1 hsome
  rw [h, Option.getD_some] at ha hb
  exact ⟨message, h, ha, hb, strictness_of_render rfl h⟩

end FlexForm.Render
