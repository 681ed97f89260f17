import FlexForm.Proofs.Json.Spelling
import FlexForm.Proofs.Overlay
import FlexForm.Render.Basic

/-! # From a template text to a message

Rendering by the grammar succeeds when the template text is well formed, what it puts out spells a
value, the markers of that value expand, and the form data has no overlay for the whole message.

* `overlayOf`: what form data has for the whole message.
* `complete_of_spells`: the message in a text that spells a value.
* `render_of_output`: rendering when the grammar puts out a text.
-/

namespace FlexForm.Render
set_option autoImplicit false

open Json

/-! ## The overlay in the form data -/

/-- What form data has at the place of the overlay for the whole message. -/
def overlayOf (data : Json) : Option Json := (data.get? "advanced").bind (·.get? "messagePatch")

/-- A segment that is no index leads to a field of an object only. -/
theorem step?_of_not_isIndex (v : Json) {segment : String} (h : Path.isIndex segment = false) :
    v.step? segment = .ok (v.get? segment) := by
  cases v with
  | arr items => simp [Json.step?, Json.get?, h]
  | null | bool | int | float | str | obj => rfl

theorem at?_overlayPath (data : Json) : data.at? overlayPath = .ok (overlayOf data) := by
  have hsegments : Path.segments overlayPath = ["advanced", "messagePatch"] := by decide
  unfold Json.at? overlayOf
  rw [hsegments]
  simp only [Json.follow?, step?_of_not_isIndex _ (show Path.isIndex "advanced" = false by decide),
    step?_of_not_isIndex _ (show Path.isIndex "messagePatch" = false by decide)]
  cases data.get? "advanced" with
  | none => rfl
  | some v =>
    cases hinside : v.get? "messagePatch" with
    | none => simp [bind, Except.bind, pure, Except.pure, hinside]
    | some w => simp [bind, Except.bind, hinside]

theorem finish_of_no_overlay {data : Json} (message : Json)
    (h : (overlayOf data).bind Overlay.patchOf? = none) :
    Overlay.finish message ((overlayOf data).getD .null) = message := by
  cases hoverlay : overlayOf data with
  | none => rfl
  | some v =>
    rw [hoverlay, Option.bind_some] at h
    simp [Overlay.finish, h]

/-! ## The message -/

/-- Without an overlay for the whole, the message is the value that the text spells with its markers
expanded. -/
theorem complete_of_spells {limit : ℤ} {data raw message : Json} {text : String}
    (hkeys : hasDistinctKeys raw = true) (hspells : Spells false text.toList (pieces raw []))
    (hexpand : Overlay.expand limit raw = .ok message)
    (hoverlay : (overlayOf data).bind Overlay.patchOf? = none) :
    complete limit data text = ⟨if message.isNull then none else some message, []⟩ := by
  have hread : Json.read false text = .ok raw := by
    unfold Json.read
    rw [readChars_of_spells hkeys hspells]
  unfold complete
  rw [hread]
  simp only [hexpand, at?_overlayPath, finish_of_no_overlay message hoverlay]

/-- A text that the grammar takes is completed from what it puts out. -/
theorem render_of_output {limit : ℤ} {mode : Option Mode} {text out : String}
    {fields : List (String × Json)} {body : List Grammar.Statement}
    (hblank : Text.isAllBlank text = false) (hmode : mode.getD (.detect text) = .grammar)
    (hcompile : Grammar.compile text = .ok body) (hout : Grammar.output body fields = .ok out) :
    render limit mode text (.obj fields) = complete limit (.obj fields) out := by
  have hdata : (if (Json.obj fields).isTruthy then Json.obj fields else .obj []) = .obj fields := by
    cases fields <;> rfl
  unfold render
  rw [hblank]
  simp only [Bool.false_eq_true, if_false, hdata, hmode, produce, byGrammar, hcompile, hout]
  rfl

end FlexForm.Render
