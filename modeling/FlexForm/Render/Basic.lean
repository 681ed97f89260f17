import FlexForm.Grammar.Run
import FlexForm.Overlay
import FlexForm.Placeholder
import FlexForm.Render.Mode

/-! # Rendering

The text of a template and the form data give a text, which is read as a message. Overlays inside
the message are expanded, and the overlay that the form data has for the whole of it comes last.

* `Rendering`: a message, or the problems that stand in its way.
* `produce`: the text that is read as a message.
* `render`: the whole way.
-/

namespace FlexForm.Render
set_option autoImplicit false

/-- The result of rendering. A message that is null counts as none. -/
structure Rendering where
  message : Option Json
  problems : List Problem

def failed (path : String) (flaw : Flaw) : Rendering := ⟨none, [⟨path, flaw, none⟩]⟩

/-- The place of problems with the text of a template. -/
def textPlace : String := "templateText"

/-- The place of problems that concern the whole. -/
def wholePlace : String := "root"

/-- The path in the form data of the overlay for the whole message. -/
def overlayPath : String := "advanced.messagePatch"

/-- The problem with a text that the grammar refuses. -/
def refused : Grammar.Refusal → Rendering
  | .grammar line cause => failed textPlace (.badTemplate line cause.message)
  | .longLiteral digits =>
    failed wholePlace (.renderFailed (Json.Cause.message (.digits digits)))
  | .longConstant => failed wholePlace (.renderFailed (Grammar.Fault.message .longInteger))

/-- The text that a template puts out for form data by the grammar. -/
def byGrammar (text : String) (data : Json) : Except Rendering String :=
  match Grammar.compile text with
  | .error refusal => .error (refused refusal)
  | .ok body =>
    let out := match data with
      | .obj fields => Grammar.output body fields
      | v => .error (.notMapping v.typeName)
    out.mapError fun fault => failed wholePlace (.renderFailed fault.message)

/-- The text that a template puts out for form data with its placeholders filled. -/
def byPlaceholders (text : String) (data : Json) : Except Rendering String :=
  match Placeholder.fill text data with
  | .error fault => .error (failed wholePlace (.renderFailed fault.message))
  | .ok (.error problems) => .error ⟨none, problems⟩
  | .ok (.ok s) => .ok s

def produce (mode : Mode) (text : String) (data : Json) : Except Rendering String :=
  match mode with
  | .grammar => byGrammar text data
  | .legacy => byPlaceholders text data
  | .raw => .ok text

/-- The message in a text, with its overlays. -/
def complete (limit : Int) (data : Json) (text : String) : Rendering :=
  match Json.read false text with
  | .error why => failed textPlace (.notMessage why)
  | .ok message =>
    match Overlay.expand limit message with
    | .error fault => failed wholePlace (.renderFailed fault.message)
    | .ok message =>
      match data.at? overlayPath with
      | .error fault => failed wholePlace (.renderFailed fault.message)
      | .ok overlay =>
        let message := Overlay.finish message (overlay.getD .null)
        ⟨if message.isNull then none else some message, []⟩

/-- Renders a text for form data. Empty data of any kind is an empty object. -/
def render (limit : Int) (mode : Option Mode) (text : String) (data : Json) : Rendering :=
  if Text.isAllBlank text then failed textPlace .emptyTemplate
  else
    let data := if data.isTruthy then data else .obj []
    match produce (mode.getD (.detect text)) text data with
    | .error rendering => rendering
    | .ok produced => complete limit data produced

end FlexForm.Render
