import FlexForm.Proofs.Render.Finite

/-! # No marker is left

A marker that holds an overlay is merged into its object, which is then expanded from the start; any
other marker is dropped. So the induction is on the levels of overlays, and inside a level on the
value: what an overlay brings in belongs to the next level. The overlay for the whole message comes
last and is not expanded, so its own markers are the only ones a message can have.

* `Overlay.LeavesNoMarker`: an expansion gives only values without markers.
* `Overlay.lacksKey_expandLevels`: so it is at every level.
* `Render.no_marker_left`: expanded values, and messages.
-/

namespace FlexForm
set_option autoImplicit false

open Json

namespace Overlay

/-! ## Expanded values -/

/-- What the expansion gives has no markers. -/
def LeavesNoMarker (expansion : Json → Except TooDeep Json) : Prop :=
  ∀ {v w}, expansion v = .ok w → lacksKey marker w = true

section
variable {inner : Json → Except TooDeep Json}

mutual

theorem lacksKey_expandWith (hinner : LeavesNoMarker inner) (v : Json) {w : Json}
    (h : expandWith inner v = .ok w) : lacksKey marker w = true := by
  match v with
  | .null | .bool _ | .int _ | .float _ | .str _ =>
    cases h
    rfl
  | .arr items =>
    obtain ⟨more, hitems, rfl⟩ := expandWith_arr_eq_ok_iff.1 h
    exact itemsLackKey_expandItems hinner items hitems
  | .obj fields =>
    obtain ⟨patch, -, h⟩ | ⟨-, more, hfields, rfl⟩ := expandWith_obj_eq_ok_iff.1 h
    -- The merged object may have markers of its own; they are left to the next level.
    · exact hinner h
    · exact fieldsLackKey_expandFields hinner fields hfields

theorem itemsLackKey_expandItems (hinner : LeavesNoMarker inner) (items : List Json)
    {more : List Json} (h : expandItems inner items = .ok more) :
    itemsLackKey marker more = true := by
  match items with
  | [] =>
    cases h
    rfl
  | v :: rest =>
    obtain ⟨w, others, hw, hothers, rfl⟩ := expandItems_cons_eq_ok_iff.1 h
    rw [itemsLackKey, Bool.and_eq_true]
    exact ⟨lacksKey_expandWith hinner v hw, itemsLackKey_expandItems hinner rest hothers⟩

theorem fieldsLackKey_expandFields (hinner : LeavesNoMarker inner)
    (fields : List (String × Json)) {more : List (String × Json)}
    (h : expandFields inner fields = .ok more) : fieldsLackKey marker more = true := by
  match fields with
  | [] =>
    cases h
    rfl
  | (key, v) :: rest =>
    rcases eq_or_ne key marker with rfl | hkey
    · exact fieldsLackKey_expandFields hinner rest (expandFields_marker.symm.trans h)
    · obtain ⟨w, others, hw, hothers, rfl⟩ := (expandFields_cons_eq_ok_iff hkey).1 h
      exact fieldsLackKey_cons.2
        ⟨hkey, lacksKey_expandWith hinner v hw, fieldsLackKey_expandFields hinner rest hothers⟩

end

end

theorem lacksKey_expandLevels (limit : ℤ) (levels : ℕ) :
    LeavesNoMarker (expandLevels limit levels) := by
  induction levels with
  | zero =>
    intro v w h
    exact lacksKey_expandWith (fun h => by cases h) v h
  | succ levels ih =>
    intro v w h
    exact lacksKey_expandWith ih v h

theorem lacksKey_finish {key : String} {message patch : Json}
    (hmessage : lacksKey key message = true)
    (hpatch : ∀ fields, patchOf? patch = some fields → lacksKey key (.obj fields) = true) :
    lacksKey key (finish message patch) = true := by
  unfold finish
  split
  next fields _ hfields => exact lacksKey_merge _ hmessage (hpatch fields hfields)
  next => exact hmessage

end Overlay

namespace Render

open Overlay

/-! ## Messages -/

/-- Expanded values have no markers, and a message has none either unless the overlay that the form
data has for the whole of it brings one in. -/
theorem no_marker_left :
    (∀ limit v w, expand limit v = .ok w → lacksKey marker w = true) ∧
    ∀ limit mode text data message, (render limit mode text data).message = some message →
      (∀ overlay fields, data.at? overlayPath = .ok (some overlay) →
        patchOf? overlay = some fields → lacksKey marker (.obj fields) = true) →
      lacksKey marker message = true := by
  refine ⟨fun limit v w h => lacksKey_expandLevels limit _ h, ?_⟩
  intro limit mode text data message h hoverlay
  obtain ⟨out, -, h⟩ := render_message h
  obtain ⟨v, w, -, hexpand, rfl⟩ := complete_message h
  rw [overlayOf_dataUsed]
  refine lacksKey_finish (lacksKey_expandLevels limit _ hexpand) fun fields hfields => ?_
  cases hdata : overlayOf data with
  | none =>
    rw [hdata] at hfields
    cases hfields
  | some overlay =>
    rw [hdata] at hfields
    exact hoverlay overlay fields (by rw [at?_overlayPath, hdata]) hfields

/-- A text under a marker that brings in two more markers: one beside it, and one inside of a list,
which holds no overlay. -/
def nestedMarkers : Json :=
  .obj [("a", .arr [.obj [("__patch", .int 7)]]), ("__patch", .str
    "\x7b\"__patch\": \x7b\"b\": 1\x7d, \"c\": [\x7b\"__patch\": []\x7d]\x7d")]

/-- The text of an overlay without markers. -/
def overlayText : String := "\x7b\"a\": \x7b\"d\": 2\x7d\x7d"

theorem no_marker_left_nested :
    let data := Json.obj [("advanced", .obj [("messagePatch", .str overlayText)])]
    ∃ w message, expand 2 nestedMarkers = .ok w ∧ lacksKey marker w = true ∧
      (render 2 (some .raw) nestedMarkers.text data).message = some message ∧
      lacksKey marker message = true := by
  intro data
  have hexpand : (expand 2 nestedMarkers).isOk = true := by decide +kernel
  have hmessage : (render 2 (some .raw) nestedMarkers.text data).message.isSome = true := by
    decide +kernel
  have hoverlay : (patchOf? (.str overlayText)).all (fun fields => fieldsLackKey marker fields) =
      true := by
    decide +kernel
  obtain ⟨message, hmessage⟩ := Option.isSome_iff_exists.1 hmessage
  cases hw : expand 2 nestedMarkers with
  | error fault =>
    rw [hw] at hexpand
    cases hexpand
  | ok w =>
    refine ⟨w, message, rfl, no_marker_left.1 2 _ w hw, hmessage,
      no_marker_left.2 2 (some .raw) _ data message hmessage fun overlay fields hdata hfields => ?_⟩
    rw [at?_overlayPath] at hdata
    cases hdata
    rw [hfields] at hoverlay
    exact hoverlay

end Render

end FlexForm
