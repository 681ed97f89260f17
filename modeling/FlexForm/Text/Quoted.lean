import FlexForm.Text.CharClass

/-! # Quoted display

How a text is shown inside a complaint or a listing: in single quotes, or in double quotes when it
holds a single quote and no double one, with escapes for what is not printable.

* `quoted`: the display form.
* `hexDigits`: hexadecimal digits in lower case, padded with zeros.
-/

namespace FlexForm.Text
set_option autoImplicit false

/-- The number in base sixteen with at least `width` lower-case digits. -/
def hexDigits (width n : Nat) : List Char :=
  let digits := Nat.toDigits 16 n
  List.replicate (width - digits.length) '0' ++ digits

/-- One character between quotes of the given kind. -/
def quotedChar (quote c : Char) : List Char :=
  if c == quote || c == '\\' then ['\\', c]
  else if c == '\n' then ['\\', 'n']
  else if c == '\r' then ['\\', 'r']
  else if c == '\t' then ['\\', 't']
  else if isPrintable c then [c]
  else if c.toNat < 0x100 then '\\' :: 'x' :: hexDigits 2 c.toNat
  else if c.toNat < 0x10000 then '\\' :: 'u' :: hexDigits 4 c.toNat
  else '\\' :: 'U' :: hexDigits 8 c.toNat

/-- The text in quotes, single ones unless only single ones occur inside. -/
def quoted (s : String) : String :=
  let cs := s.toList
  let quote := if cs.contains '\'' && !cs.contains '"' then '"' else '\''
  String.ofList (quote :: cs.flatMap (quotedChar quote) ++ [quote])

end FlexForm.Text
