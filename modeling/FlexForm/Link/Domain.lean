import FlexForm.Link.Address
import FlexForm.Text.Case
import FlexForm.Text.CharClass

/-! # Domain names

The names that may stand as the host of a link. A name is decoded, brought to a common form and then
checked label by label.

* `decodePercent?`: a text with its percent escapes replaced by the characters they stand for.
* `commonForm`: lower case, ignorable characters dropped, wide forms replaced.
* `isHost`: whether the text is a name or an address.
-/

namespace FlexForm.Link
set_option autoImplicit false

/-! ## Percent escapes -/

/-- The bytes of a text in which an escape stands for one byte. -/
def percentBytes : List Char → List UInt8
  | '%' :: a :: b :: rest =>
    match Json.hexValue? a, Json.hexValue? b with
    | some x, some y => UInt8.ofNat (x * 16 + y) :: percentBytes rest
    | _, _ => '%'.toString.toUTF8.toList ++ percentBytes (a :: b :: rest)
  | c :: rest => c.toString.toUTF8.toList ++ percentBytes rest
  | [] => []

/-- The text with its percent escapes decoded, if that gives characters. -/
def decodePercent? (s : List Char) : Option (List Char) :=
  if s.contains '%' then
    (String.fromUTF8? (ByteArray.mk (percentBytes s).toArray)).map String.toList
  else some s

/-! ## Common form -/

/-- Characters that are dropped from a name. -/
def dropped : Text.CodeRanges :=
  [(0xAD, 0xAD), (0x34F, 0x34F), (0x180B, 0x180D), (0x180F, 0x180F), (0x200B, 0x200B),
    (0x2060, 0x2060), (0x2064, 0x2064), (0xFE00, 0xFE0F), (0xFEFF, 0xFEFF), (0x1BCA0, 0x1BCA3),
    (0xE0100, 0xE01EF)]

/-- Characters that stand for something with a blank or a forbidden sign in it, or for nothing. -/
def refusedSigns : Text.CodeRanges :=
  [(168, 168), (175, 175), (180, 180), (184, 184), (728, 733), (890, 890), (900, 901),
    (4447, 4448), (6068, 6069), (8125, 8125), (8127, 8129), (8141, 8143), (8157, 8159),
    (8173, 8174), (8189, 8190), (8215, 8215), (8254, 8254), (8263, 8265), (8448, 8449),
    (8453, 8454), (9352, 9371), (10868, 10868), (12272, 12283), (12443, 12444), (12644, 12644),
    (64606, 64611), (65018, 65019), (65043, 65043), (65046, 65046), (65095, 65100),
    (65109, 65110), (65119, 65119), (65124, 65125), (65128, 65128), (65130, 65131),
    (65136, 65136), (65138, 65138), (65140, 65140), (65142, 65142), (65144, 65144),
    (65146, 65146), (65148, 65148), (65150, 65150), (65283, 65283), (65285, 65285),
    (65295, 65295), (65306, 65306), (65308, 65308), (65310, 65312), (65339, 65342),
    (65372, 65372), (65440, 65440), (65507, 65507), (65532, 65533)]

/-- The plain character for a wide one, and the dot for the other full stops. -/
def narrow (c : Char) : Char :=
  let n := c.toNat
  if n == 0x3002 || n == 0xFF61 || n == 0x2024 then '.'
  else if 0xFF01 ≤ n && n ≤ 0xFF5E then Char.ofNat (n - 0xFEE0)
  else c

def commonForm (name : List Char) : List Char :=
  ((name.filter fun c => !dropped.has c).map narrow).flatMap Text.lowerChar

/-! ## Labels -/

/-- Signs that no name holds. -/
def isForbidden (c : Char) : Bool :=
  c.toNat ≤ 32 || c.toNat == 127 ||
    ['%', '#', '/', ':', '<', '>', '?', '@', '[', '\\', ']', '^', '|'].contains c

def isNameChar (c : Char) : Bool :=
  if c.toNat < 128 then !isForbidden c
  else Text.isPrintable c && !refusedSigns.has c && c.toNat != 0x200C && c.toNat != 0x200D

/-- The code point numbers in the tail of an encoded label, added to those decoded before. The
digits have base thirty-six, and their weights follow a threshold that adapts itself. -/
def decodeDeltas (fuel : Nat) (digits : List Char) (n i bias : Nat) (out : List Nat) :
    Option (List Nat) :=
  match fuel with
  | 0 => none
  | fuel + 1 =>
    if digits.isEmpty then some out
    else
      let rec delta (digits : List Char) (k i w : Nat) : Option (Nat × List Char) :=
        match digits with
        | [] => none
        | c :: rest =>
          let value := if c.isDigit then c.toNat - 22 else c.toLower.toNat - 97
          if !c.isAlphanum then none
          else
            let i := i + value * w
            let t := if k ≤ bias then 1 else if k ≥ bias + 26 then 26 else k - bias
            if value < t then some (i, rest) else delta rest (k + 36) i (w * (36 - t))
      match delta digits 36 i 1 with
      | none => none
      | some (next, rest) =>
        let count := out.length + 1
        let d := if i == 0 then (next - i) / 700 else (next - i) / 2
        let d := d + d / count
        let rec adapt (fuel d k : Nat) : Nat :=
          match fuel with
          | 0 => k
          | fuel + 1 => if d > 455 then adapt fuel (d / 35) (k + 36) else k + 36 * d / (d + 38)
        let bias := adapt 40 d 0
        let n := n + next / count
        let i := next % count
        if n > 0x10FFFF then none
        else decodeDeltas fuel rest n (i + 1) bias (out.take i ++ n :: out.drop i)

/-- The characters of a label that stands in its encoded form, after the mark `xn--`. -/
def decodeLabel? (label : List Char) : Option (List Char) :=
  let reversed := label.reverse
  let tail := (reversed.takeWhile (· != '-')).reverse
  let plain := ((reversed.dropWhile (· != '-')).drop 1).reverse
  (decodeDeltas (label.length + 1) tail 128 0 72 (plain.map Char.toNat)).map
    (·.map Json.charOf)

/-- Whether a label may stand in a name; an empty one may. -/
def isLabel (label : List Char) : Bool :=
  let fits (cs : List Char) : Bool :=
    cs.all isNameChar && !(cs.head?.any fun c => c.toNat ≥ 128 && Text.marks.has c)
  match label with
  | 'x' :: 'n' :: '-' :: '-' :: rest =>
    match decodeLabel? rest with
    | some cs => fits cs && cs.any (fun c => c.toNat ≥ 128) && commonForm cs == cs
    | none => false
  | _ => fits label

/-- Whether the text is a host: an address in brackets, a name, or an address of four bytes. -/
def isHost (s : List Char) : Bool :=
  match s with
  | '[' :: rest => rest.getLast? == some ']' && isAddress6 rest.dropLast
  | _ =>
    match decodePercent? s with
    | none => false
    | some decoded =>
      let name := commonForm decoded
      !name.isEmpty && (labels name).all isLabel && (!endsInNumber name || isAddress4 name)

end FlexForm.Link
