import FlexForm.Json.Reader

/-! # Numeric addresses

The two kinds of numeric host of a link.

* `endsInNumber`: the names that must be an address of four bytes, and `isAddress4`, which says
  whether one is.
* `isAddress6`: the texts between brackets.
-/

namespace FlexForm.Link
set_option autoImplicit false

-- Powers are the built-in ones, also where a library of algebra brings others.
attribute [local instance (high)] instPowNat

/-! ## Four bytes -/

def labels : List Char → List (List Char)
  | [] => [[]]
  | c :: rest =>
    if c == '.' then [] :: labels rest
    else match labels rest with
      | [] => [[c]]
      | label :: others => (c :: label) :: others

/-- The value of the digits in the base, if they are digits of it. -/
def valueIn? (base : Nat) (digits : List Char) : Option Nat :=
  digits.foldlM (fun n c =>
    match Json.hexValue? c with
    | some v => if v < base then some (n * base + v) else none
    | none => none) 0

/-- The value of a number: hexadecimal after `0x`, octal after `0`, and decimal otherwise. -/
def number? : List Char → Option Nat
  | [] => none
  | '0' :: 'x' :: rest | '0' :: 'X' :: rest => valueIn? 16 rest
  | '0' :: c :: rest => valueIn? 8 (c :: rest)
  | digits => valueIn? 10 digits

/-- The labels of a name, without an empty one at the end. -/
def closedLabels (name : List Char) : List (List Char) :=
  let all := labels name
  if all.getLast? == some [] then all.dropLast else all

/-- Whether the last label of a name is a number, so that the whole has to be an address. -/
def endsInNumber (name : List Char) : Bool :=
  match (closedLabels name).getLast? with
  | some label => (!label.isEmpty && label.all Char.isDigit) || (number? label).isSome
  | none => false

/-- Whether a name is an address: up to four numbers, the last of which fills the remaining
bytes. -/
def isAddress4 (name : List Char) : Bool :=
  let parts := closedLabels name
  match (parts.mapM number?).map List.reverse with
  | some (last :: others) =>
    parts.length ≤ 4 && others.all (· ≤ 255) && last < 2 ^ (8 * (4 - others.length))
  | _ => false

/-! ## Eight pairs of bytes -/

/-- Whether the text is a decimal number up to 255 without needless zeros. -/
def isByte (digits : List Char) : Bool :=
  !digits.isEmpty && digits.all Char.isDigit && (digits.length == 1 || digits.head? != some '0') &&
    Json.decimalOf (digits.take 4) ≤ 255 && digits.length ≤ 3

/-- Whether the text is four decimal bytes between dots. -/
def isQuad (s : List Char) : Bool :=
  let parts := labels s
  parts.length == 4 && parts.all isByte

/-- Reads pieces between colons, `count` of which came before; `short` says that a double colon was
among them. -/
def piecesFit (fuel count : Nat) (short : Bool) (s : List Char) : Bool :=
  match fuel with
  | 0 => false
  | fuel + 1 =>
    match s with
    | [] => short || count == 8
    | ':' :: rest => count < 8 && !short && piecesFit fuel (count + 1) true rest
    | _ =>
      let digits := s.takeWhile fun c => (Json.hexValue? c).isSome
      let piece := digits.take 4
      let rest := s.drop piece.length
      count < 8 &&
        match rest with
        | [] => short || count + 1 == 8
        | '.' :: _ => !piece.isEmpty && count ≤ 6 && isQuad s && (short || count == 6)
        | ':' :: rest => !rest.isEmpty && piecesFit fuel (count + 1) short rest
        | _ => false

def isAddress6 (s : List Char) : Bool :=
  match s with
  | [] | [_] => false
  | ':' :: ':' :: rest => piecesFit (s.length + 1) 1 true rest
  | ':' :: _ => false
  | _ => piecesFit (s.length + 1) 0 false s

end FlexForm.Link
