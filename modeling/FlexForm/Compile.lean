import FlexForm.Form.Check
import FlexForm.Message.Check
import FlexForm.Render.Basic
import FlexForm.Routing

/-! # Compiling

Form data and a template give a message, together with all problems: those of the data, those of
rendering, and those of the message itself, in this order.

* `Compiled`: the message and the problems.
* `Compiled.isOk`: there is a message and no problem.
* `Renderer`: a way of rendering.
* `Template.compileBy`: the whole way, with a way of rendering; `Template.compile`: with the one that
  is given by the number of levels of overlays.
-/

namespace FlexForm
set_option autoImplicit false

structure Compiled where
  message : Option Json
  problems : List Problem
  kind : Kind

def Compiled.isOk (c : Compiled) : Bool := c.message.isSome && c.problems.isEmpty

/-- The number of levels of overlays that is allowed when nothing else is said. -/
def overlayLevels : Int := 32

/-- What a mode, a text and form data are rendered as. -/
abbrev Renderer := Option Render.Mode → String → Json → Render.Rendering

/-- Compiles form data, of which null counts as an empty object. -/
def Template.compileBy (t : Template) (render : Renderer) (data : Json) :
    Except PathFault Compiled := do
  let data := if data.isNull then .obj [] else data
  let r := t.resolve
  let problems ← r.schema.check data
  let rendering := render (some r.mode) r.text data
  let ofMessage := match rendering.message with
    | some message => Message.check message
    | none => []
  return ⟨rendering.message, problems ++ rendering.problems ++ ofMessage, r.kind⟩

/-- Compiles form data with overlays of so many levels. -/
def Template.compile (t : Template) (levels : Int) (data : Json) : Except PathFault Compiled :=
  t.compileBy (Render.render levels) data

end FlexForm
