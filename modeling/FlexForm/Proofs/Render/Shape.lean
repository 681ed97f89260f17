import FlexForm.Proofs.Grammar.Output
import FlexForm.Proofs.Render.Complete

/-! # Rendering a text with a shape

When a text has a shape, its rendering is settled by what the shape spells: a value with distinct
keys whose markers expand.

* `HasShape`: a text that is not blank and has a shape.
* `render_of_shape`: what it is rendered as.
-/

namespace FlexForm.Render
set_option autoImplicit false

open Json Grammar

/-- The text is not blank, and its statements have the shape. -/
def HasShape (text : String) (parts : List Part) : Prop :=
  (!Text.isAllBlank text &&
    (compile text).toOption.any (Part.fitsAll (Part.setsAll parts) false parts)) = true

theorem render_of_shape {limit : ℤ} {text : String} {parts : List Part}
    {data : List (String × Json)} {raw message : Json} (hshape : HasShape text parts)
    (h : (Json.obj data).Sound)
    (hiterates : Part.iteratesAll (.ofFields parts data) parts = true)
    (hspelled : Part.spelledAll (.ofFields parts data) false parts [] = pieces raw [])
    (hkeys : hasDistinctKeys raw = true) (hexpand : Overlay.expand limit raw = .ok message)
    (hoverlay : (overlayOf (.obj data)).bind Overlay.patchOf? = none) :
    render limit (some .grammar) text (.obj data) =
      ⟨if message.isNull then none else some message, []⟩ := by
  rw [HasShape, Bool.and_eq_true, Bool.not_eq_true', Option.any_eq_true] at hshape
  obtain ⟨hblank, body, hcompile, hfits⟩ := hshape
  have hbody : compile text = .ok body := by
    cases hresult : compile text with
    | error why =>
      rw [hresult] at hcompile
      cases hcompile
    | ok found =>
      rw [hresult] at hcompile
      cases hcompile
      rfl
  obtain ⟨out, hout, hspells⟩ := output_of_fits hfits h hiterates
  rw [hspelled] at hspells
  rw [render_of_output hblank rfl hbody hout]
  exact complete_of_spells hkeys hspells hexpand hoverlay

end FlexForm.Render
