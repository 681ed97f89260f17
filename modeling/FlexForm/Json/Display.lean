import FlexForm.Json.Writer

/-! # Displayed values

How a value is shown inside a sentence: texts in single quotes, and the names `True`, `False` and
`None`.

* `Json.display`: the value as it stands inside other values.
* `Json.shown`: the same, but a text at the top stands without quotes.
-/

namespace FlexForm.Json
set_option autoImplicit false

mutual

def display : Json → String
  | .null => "None"
  | .bool true => "True"
  | .bool false => "False"
  | .int n => String.ofList (intChars n)
  | .float x => String.ofList (Layout.display.write x)
  | .str s => Text.quoted s
  | .arr items => "[" ++ displayItems items ++ "]"
  | .obj fields => "\x7b" ++ displayFields fields ++ "\x7d"

def displayItems : List Json → String
  | [] => ""
  | [v] => display v
  | v :: rest => display v ++ ", " ++ displayItems rest

def displayFields : List (String × Json) → String
  | [] => ""
  | [(k, v)] => Text.quoted k ++ ": " ++ display v
  | (k, v) :: rest => Text.quoted k ++ ": " ++ display v ++ ", " ++ displayFields rest

end

/-- The value as it is shown in a sentence. -/
def shown : Json → String
  | .str s => s
  | v => display v

@[simp] theorem shown_str (s : String) : shown (.str s) = s := rfl

end FlexForm.Json
