import FlexForm.Text.Search

/-! # Modes of rendering

How the text of a template becomes a message.

* `Mode`: by the grammar of expressions, by placeholders, or as it stands.
* `Mode.detect`: the mode that a text asks for.
-/

namespace FlexForm.Render
set_option autoImplicit false

inductive Mode where
  | grammar
  | legacy
  | raw
  deriving DecidableEq, Inhabited

def Mode.name : Mode → String
  | .grammar => "grammar"
  | .legacy => "legacy"
  | .raw => "raw_json"

/-- The written names of the modes. -/
def Mode.names : List (String × Mode) :=
  [("grammar", .grammar), ("legacy", .legacy), ("raw_json", .raw)]

theorem Mode.lookup_name (m : Mode) : Mode.names.lookup m.name = some m := by
  cases m <;> decide

/-- A print or a tag asks for the grammar, and else a placeholder for the placeholders. -/
def Mode.detect (text : String) : Mode :=
  if Text.contains text "\x7b\x7b" || Text.contains text "\x7b%" then .grammar
  else if Text.contains text "$\x7bdata." then .legacy
  else .raw

end FlexForm.Render
