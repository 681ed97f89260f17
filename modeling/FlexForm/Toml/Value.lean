import FlexForm.Json.Basic
import FlexForm.Text.Quoted

/-! # Values of settings files

A settings file is a TOML document: a table of texts, numbers, truth values, points in time, arrays
and further tables.

* `Toml.Value`, `Toml.Value.toJson`: the values.
* `Toml.Cause`, `Toml.Fault`: what can be wrong with a document, and the words for it.
* `Toml.update?`: changes the table behind a dotted key.
-/

namespace FlexForm.Toml
set_option autoImplicit false

inductive Value where
  | text (s : String)
  | integer (n : Int)
  | number (x : Binary64)
  | truth (b : Bool)
  /-- A date, a time of day or both, in words. -/
  | moment (shown : String)
  | array (items : List Value)
  | table (entries : List (String × Value))
  deriving Inhabited

mutual

/-- The value in JSON. A point in time becomes a list of its words: no setting takes a list. -/
def Value.toJson : Value → Json
  | .text s => .str s
  | .integer n => .int n
  | .number x => .float x
  | .truth b => .bool b
  | .moment shown => .arr [.str shown]
  | .array items => .arr (itemsToJson items)
  | .table entries => .obj (entriesToJson entries)

def itemsToJson : List Value → List Json
  | [] => []
  | v :: rest => v.toJson :: itemsToJson rest

def entriesToJson : List (String × Value) → List (String × Json)
  | [] => []
  | (key, v) :: rest => (key, v.toJson) :: entriesToJson rest

end

abbrev Key := List String

/-- A dotted key as complaints show it. -/
def shownKey (key : Key) : String :=
  match key with
  | [name] => "(" ++ Text.quoted name ++ ",)"
  | names => "(" ++ ", ".intercalate (names.map Text.quoted) ++ ")"

/-! ## Faults -/

inductive Cause where
  | statement
  | lineEnd
  | expected (text : String)
  | invalid (c : Char)
  | illegal (c : Char)
  | declaredTwice (key : Key)
  | immutable (key : Key)
  | redefined (key : Key)
  | overwrite
  | sectionEnd
  | itemEnd
  | equals
  | keyStart
  | unclosedArray
  | unclosedTable
  | duplicate (name : String)
  | backslash
  | hexadecimal
  | noCharacter
  | unterminated
  | moment
  | value
  /-- An integer with so many digits is too long to be read. -/
  | digits (count : Nat)
  deriving DecidableEq, Inhabited

def Cause.message : Cause → String
  | .statement => "Invalid statement"
  | .lineEnd => "Expected newline or end of document after a statement"
  | .expected text => "Expected " ++ Text.quoted text
  | .invalid c => "Found invalid character " ++ Text.quoted (String.singleton c)
  | .illegal c => "Illegal character " ++ Text.quoted (String.singleton c)
  | .declaredTwice key => s!"Cannot declare {shownKey key} twice"
  | .immutable key => s!"Cannot mutate immutable namespace {shownKey key}"
  | .redefined key => s!"Cannot redefine namespace {shownKey key}"
  | .overwrite => "Cannot overwrite a value"
  | .sectionEnd => "Expected ']' at the end of a table declaration"
  | .itemEnd => "Expected ']]' at the end of an array declaration"
  | .equals => "Expected '=' after a key in a key/value pair"
  | .keyStart => "Invalid initial character for a key part"
  | .unclosedArray => "Unclosed array"
  | .unclosedTable => "Unclosed inline table"
  | .duplicate name => "Duplicate inline table key " ++ Text.quoted name
  | .backslash => "Unescaped '\\' in a string"
  | .hexadecimal => "Invalid hex value"
  | .noCharacter => "Escaped character is not a Unicode scalar value"
  | .unterminated => "Unterminated string"
  | .moment => "Invalid date or datetime"
  | .value => "Invalid value"
  | .digits count =>
    s!"Exceeds the limit (4300 digits) for integer string conversion: value has {count} digits; " ++
      "use sys.set_int_max_str_digits() to increase the limit"

/-- A cause, and how many characters were left where it was met. -/
structure Fault where
  cause : Cause
  left : Nat
  deriving DecidableEq, Inhabited

/-! ## Tables -/

/-- Changes the table behind a dotted key; missing tables on the way are made. Where `throughArrays`
holds, an array on the way stands for its last table. There is no result where something else than
a table is on the way, or where the change has none. -/
def update? (throughArrays : Bool)
    (change : List (String × Value) → Option (List (String × Value))) :
    Key → List (String × Value) → Option (List (String × Value))
  | [], entries => change entries
  | name :: key, entries =>
    match Fields.get? entries name with
    | none => do
      pure (Fields.insert entries name (.table (← update? throughArrays change key [])))
    | some (.table inner) => do
      pure (Fields.insert entries name (.table (← update? throughArrays change key inner)))
    | some (.array items) =>
      match throughArrays, items.getLast? with
      | true, some (.table inner) => do
        let changed ← update? throughArrays change key inner
        pure (Fields.insert entries name (.array (items.dropLast ++ [.table changed])))
      | _, _ => none
    | some _ => none

def addNew? (name : String) (v : Value) (entries : List (String × Value)) :
    Option (List (String × Value)) :=
  if Fields.has entries name then none else some (Fields.insert entries name v)

/-- Puts one more empty table to the array under a name. -/
def addItem? (name : String) (entries : List (String × Value)) :
    Option (List (String × Value)) :=
  match Fields.get? entries name with
  | none => some (Fields.insert entries name (.array [.table []]))
  | some (.array items) => some (Fields.insert entries name (.array (items ++ [.table []])))
  | some _ => none

end FlexForm.Toml
