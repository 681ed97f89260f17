/-! # Texts inside texts

* `occursIn`: whether characters stand together somewhere in a text.
-/

namespace FlexForm.Text
set_option autoImplicit false

/-- Whether the characters `s` stand together somewhere in the text. -/
def occursIn (s : List Char) : List Char → Bool
  | [] => s.isEmpty
  | c :: rest => s.isPrefixOf (c :: rest) || occursIn s rest

def contains (t s : String) : Bool := occursIn s.toList t.toList

end FlexForm.Text
