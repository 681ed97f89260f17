import FlexForm.Text.Letters
import FlexForm.Text.Numbers
import FlexForm.Text.Unprintable

/-! # Character classes

The classes of characters that the readers of this library tell apart. Each is decided over all of
Unicode.

* `isBlank`: the characters that count as white space, and `trim`, which removes them at both ends.
* `decimalValue?`: the value of a decimal digit, and `isDigit`, which also holds of lone digits.
* `isWord`: letters, numbers and the underscore.
* `isNameStart`, `isNameRest`: the characters of a name.
* `isPrintable`: the characters that are shown as they are.
-/

namespace FlexForm.Text
set_option autoImplicit false

/-- White space: the separators, and the controls that move the cursor or separate records. -/
def isBlank (c : Char) : Bool :=
  let n := c.toNat
  (9 ≤ n && n ≤ 13) || (28 ≤ n && n ≤ 32) || n == 0x85 || n == 0xA0 || n == 0x1680 ||
    (0x2000 ≤ n && n ≤ 0x200A) || n == 0x2028 || n == 0x2029 || n == 0x202F || n == 0x205F ||
    n == 0x3000

def trimLeft (s : List Char) : List Char := s.dropWhile isBlank

def trimRight (s : List Char) : List Char := (s.reverse.dropWhile isBlank).reverse

def trim (s : List Char) : List Char := trimRight (trimLeft s)

def isAllBlank (s : String) : Bool := s.toList.all isBlank

/-- The value of a decimal digit of any script. -/
def decimalValue? (c : Char) : Option Nat :=
  let n := c.toNat
  if n < 128 then
    if 48 ≤ n && n ≤ 57 then some (n - 48) else none
  else
    (decimalDigits.find? fun r => r.1 ≤ n && n ≤ r.2).map fun r => (n - r.1) % 10

def isDecimalDigit (c : Char) : Bool := (decimalValue? c).isSome

/-- A digit of any kind, decimal or not. -/
def isDigit (c : Char) : Bool :=
  if c.toNat < 128 then c.isDigit else isDecimalDigit c || loneDigits.has c

def isLetter (c : Char) : Bool :=
  if c.toNat < 128 then c.isAlpha else letters.has c

/-- A letter or a number of any script. -/
def isAlphanumeric (c : Char) : Bool :=
  if c.toNat < 128 then c.isAlphanum
  else letters.has c || decimalDigits.has c || letterNumbers.has c || otherNumbers.has c

/-- A letter, a number or the underscore. -/
def isWord (c : Char) : Bool := c == '_' || isAlphanumeric c

/-- The characters with which a name may start. -/
def isNameStart (c : Char) : Bool :=
  c == '_' || (if c.toNat < 128 then c.isAlpha
    else (letters.has c || letterNumbers.has c || [0x2118, 0x212E].contains c.toNat) &&
      !([0x37A, 0xE33, 0xEB3, 0x2E2F, 0xFF9E, 0xFF9F].contains c.toNat))

/-- The connectors that may stand inside a name. -/
def isConnector (c : Char) : Bool :=
  [0x5F, 0x203F, 0x2040, 0x2054, 0xFE33, 0xFE34, 0xFE4D, 0xFE4E, 0xFE4F, 0xFF3F].contains c.toNat

/-- The characters with which a name may go on. -/
def isNameRest (c : Char) : Bool :=
  if c.toNat < 128 then c == '_' || c.isAlphanum
  else (letters.has c || letterNumbers.has c || decimalDigits.has c || marks.has c || isConnector c
    || [0xB7, 0x387, 0x19DA, 0x2118, 0x212E].contains c.toNat
    || (0x1369 ≤ c.toNat && c.toNat ≤ 0x1371)) && !([0x37A, 0x2E2F].contains c.toNat)

/-- Whether the text is a name: it starts like one and goes on like one. -/
def isName (s : String) : Bool :=
  match s.toList with
  | [] => false
  | c :: rest => isNameStart c && rest.all isNameRest

/-- The characters that are shown as they are. -/
def isPrintable (c : Char) : Bool :=
  if c.toNat < 128 then 32 ≤ c.toNat && c.toNat ≤ 126 else !unprintable.has c

end FlexForm.Text
