import FlexForm.Proofs.Grammar.Print
import FlexForm.Proofs.Json.Sound
import FlexForm.Proofs.Render.Complete

/-! # Values cannot break out of a print

The text of a document in which the print of a value stands at some position is rendered as the
document with that value at the position, whatever characters the strings of the value contain.

* `printedAt`: the text of a document with a print at a position.
* `render_printedAt`: what it is rendered as.
-/

namespace FlexForm.Render
set_option autoImplicit false

open Json Grammar

/-- The text of a document, with the print of `x` in place of the value at the position. -/
def printedAt (esc : Char → List Char) (position : Position) : String :=
  String.ofList (position.before esc ++ printX ++ position.after esc)

theorem contains_printX (b a : List Char) :
    Text.contains (String.ofList (b ++ printX ++ a)) "\x7b\x7b" = true := by
  unfold Text.contains
  rw [String.toList_ofList, String.toList_ofList, List.append_assoc]
  induction b with
  | nil => rfl
  | cons c rest ih =>
    rw [List.cons_append, Text.occursIn, ih, Bool.or_true]

theorem isAllBlank_printX (b a : List Char) :
    Text.isAllBlank (String.ofList (b ++ printX ++ a)) = false := by
  unfold Text.isAllBlank
  rw [String.toList_ofList, List.all_append, List.all_append,
    show printX.all Text.isBlank = false from rfl]
  simp

section
variable {esc : Char → List Char}

/-- A value at a position is read back as itself, and the document around it as well. -/
theorem render_printedAt (he : Escapes esc) (hp : Plain esc) (position : Position) {w v : Json}
    (limit : ℤ) {mode : Option Mode} (hmode : mode.getD .grammar = .grammar)
    (hw : Sound (position.fill w)) (htame : everyText isTame (position.fill w) = true)
    (hv : Sound v) :
    (render limit mode (printedAt esc position) (.obj [("x", v)])).problems = [] ∧
      (render limit mode (printedAt esc position) (.obj [("x", v)])).message.getD .null =
        position.fill v := by
  obtain ⟨hbefore, hafter⟩ := quiet_around hp position htame
  have hwhole := hw.fill hv
  have hspells : Spells false
      (String.ofList (position.before esc ++ chars v ++ position.after esc)).toList
      (pieces (position.fill v) []) := by
    rw [String.toList_ofList]
    rw [← List.append_nil (position.before esc ++ chars v ++ position.after esc)]
    exact position.spells he
      (fun rest qs hr h => spells_chars hv.finite hv.writable hr h) hwhole.finite hwhole.writable
      endsNumber_nil .done
  have hgrammar : mode.getD (.detect (printedAt esc position)) = .grammar := by
    cases mode with
    | none =>
      rw [Option.getD_none, Mode.detect, printedAt, contains_printX, Bool.true_or]
      rfl
    | some m => exact hmode
  have hrender := @render_of_output limit mode _ _ _ _ (isAllBlank_printX _ _) hgrammar
    (compile_print hbefore hafter) (output_print _ _ hv.writable)
  rw [printedAt, hrender, complete_of_spells hwhole.keys hspells
    (Overlay.expand_of_lacksKey limit hwhole.unmarked) rfl]
  refine ⟨rfl, ?_⟩
  cases position.fill v <;> rfl

end

/-- A string that closes quotes, prints and tags is put into a list as it is. -/
theorem render_printedAt_hostile :
    let position : Position := .field [("kind", .str "é")] "items"
      (.item [.null] .here [.bool true]) []
    let hostile : Json := .str "\"\x7d, \x7b\x7b x \x7d\x7d \x7b% raw %\x7d \\ \n"
    (render 5 none (printedAt asciiChar position) (.obj [("x", hostile)])).problems = [] ∧
      (render 5 none (printedAt asciiChar position) (.obj [("x", hostile)])).message.getD .null =
        position.fill hostile :=
  render_printedAt escapes_asciiChar plain_asciiChar
    (.field [("kind", .str "é")] "items" (.item [.null] .here [.bool true]) []) (w := .null) 5 rfl
    ⟨by decide +kernel, by decide +kernel, by decide +kernel, by decide +kernel⟩
    (by decide +kernel) (sound_str _)

end FlexForm.Render
