import FlexForm.Json.Basic
import FlexForm.Number.Layout
import FlexForm.Text.Quoted

/-! # JSON texts

How a value is written as a text. Only what must be escaped is escaped, and other characters stand
as they are.

* `Json.quote`: a text between double quotes.
* `Json.chars`, `Json.text`: the value on one line, with `, ` and `: ` as separators.
* `Json.pretty`: the value on several lines, each level indented by some more columns.
* `Json.isWritable`: whether every integer is short enough to be written in decimal.
-/

namespace FlexForm.Json
set_option autoImplicit false

-- Powers are the built-in ones, also where a library of algebra brings others.
attribute [local instance (high)] instPowNat

/-- One character inside double quotes. -/
def quoteChar (c : Char) : List Char :=
  if c == '"' then ['\\', '"']
  else if c == '\\' then ['\\', '\\']
  else if c == '\n' then ['\\', 'n']
  else if c == '\r' then ['\\', 'r']
  else if c == '\t' then ['\\', 't']
  else if c == '\x08' then ['\\', 'b']
  else if c == '\x0c' then ['\\', 'f']
  else if c.toNat < 32 then '\\' :: 'u' :: Text.hexDigits 4 c.toNat
  else [c]

def quote (s : String) : List Char := '"' :: s.toList.flatMap quoteChar ++ ['"']

/-- The decimal digits of an integer, with a minus sign when it is negative. -/
def intChars (n : Int) : List Char :=
  if n < 0 then '-' :: Nat.toDigits 10 n.natAbs else Nat.toDigits 10 n.natAbs

mutual

/-- The text of a value on one line. -/
def chars : Json → List Char
  | .null => ['n', 'u', 'l', 'l']
  | .bool true => ['t', 'r', 'u', 'e']
  | .bool false => ['f', 'a', 'l', 's', 'e']
  | .int n => intChars n
  | .float x => Layout.token.write x
  | .str s => quote s
  | .arr items => '[' :: itemChars items ++ [']']
  | .obj fields => '{' :: fieldChars fields ++ ['}']

def itemChars : List Json → List Char
  | [] => []
  | [v] => chars v
  | v :: rest => chars v ++ ',' :: ' ' :: itemChars rest

def fieldChars : List (String × Json) → List Char
  | [] => []
  | [(k, v)] => quote k ++ ':' :: ' ' :: chars v
  | (k, v) :: rest => quote k ++ ':' :: ' ' :: chars v ++ ',' :: ' ' :: fieldChars rest

end

def text (v : Json) : String := String.ofList (chars v)

/-! ## Several lines -/

def newLine (columns : Nat) : List Char := '\n' :: List.replicate columns ' '

mutual

/-- The text of a value on several lines, each level `step` columns deeper than the one around it,
which starts at `column`; `number` writes the floating point numbers. -/
def prettyChars (number : Layout) (step column : Nat) : Json → List Char
  | .null => ['n', 'u', 'l', 'l']
  | .bool true => ['t', 'r', 'u', 'e']
  | .bool false => ['f', 'a', 'l', 's', 'e']
  | .int n => intChars n
  | .float x => number.write x
  | .str s => quote s
  | .arr [] => ['[', ']']
  | .obj [] => ['{', '}']
  | .arr (v :: rest) =>
    '[' :: newLine (column + step) ++ prettyChars number step (column + step) v
      ++ prettyItems number step (column + step) rest ++ newLine column ++ [']']
  | .obj ((k, v) :: rest) =>
    '{' :: newLine (column + step) ++ quote k ++ ':' :: ' ' ::
      prettyChars number step (column + step) v
      ++ prettyFields number step (column + step) rest ++ newLine column ++ ['}']

def prettyItems (number : Layout) (step column : Nat) : List Json → List Char
  | [] => []
  | v :: rest =>
    ',' :: newLine column ++ prettyChars number step column v
      ++ prettyItems number step column rest

def prettyFields (number : Layout) (step column : Nat) : List (String × Json) → List Char
  | [] => []
  | (k, v) :: rest =>
    ',' :: newLine column ++ quote k ++ ':' :: ' ' :: prettyChars number step column v
      ++ prettyFields number step column rest

end

/-- The text of a value on several lines. -/
def pretty (number : Layout) (step : Nat) (v : Json) : String :=
  String.ofList (prettyChars number step 0 v)

/-! ## What cannot be written -/

/-- The greatest number of digits of an integer that is read or written in decimal. -/
def maxDigits : Nat := 4300

/-- Whether an integer is short enough to be written in decimal. -/
def isShortInt (n : Int) : Bool := n.natAbs < 10 ^ maxDigits

mutual

def isWritable : Json → Bool
  | .int n => isShortInt n
  | .arr items => areWritable items
  | .obj fields => areWritableFields fields
  | .null | .bool _ | .float _ | .str _ => true

def areWritable : List Json → Bool
  | [] => true
  | v :: rest => isWritable v && areWritable rest

def areWritableFields : List (String × Json) → Bool
  | [] => true
  | (_, v) :: rest => isWritable v && areWritableFields rest

end

theorem itemChars_cons_cons (v w : Json) (rest : List Json) :
    itemChars (v :: w :: rest) = chars v ++ ',' :: ' ' :: itemChars (w :: rest) := by
  simp [itemChars]

end FlexForm.Json
