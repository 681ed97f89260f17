/-! # Text from bytes

Reading bytes as UTF-8, where a replacement character stands for each stretch that is no character.

* `Text.ofBytes`: the characters.
-/

namespace FlexForm.Text
set_option autoImplicit false

/-- The character in place of bytes that are none. -/
def replacement : Char := '\uFFFD'

/-- How many bytes follow a first one, and between which bounds the next of them lies. -/
def following? (first : UInt8) : Option (Nat × UInt8 × UInt8) :=
  if first < 0xC2 then none
  else if first < 0xE0 then some (1, 0x80, 0xBF)
  else if first == 0xE0 then some (2, 0xA0, 0xBF)
  else if first == 0xED then some (2, 0x80, 0x9F)
  else if first < 0xF0 then some (2, 0x80, 0xBF)
  else if first == 0xF0 then some (3, 0x90, 0xBF)
  else if first < 0xF4 then some (3, 0x80, 0xBF)
  else if first == 0xF4 then some (3, 0x80, 0x8F)
  else none

/-- The code point that a first byte starts, before the bytes that follow it. -/
def startOf (first : UInt8) : Nat :=
  if first < 0xE0 then first.toNat - 0xC0
  else if first < 0xF0 then first.toNat - 0xE0
  else first.toNat - 0xF0

mutual

def ofBytes : List UInt8 → List Char
  | [] => []
  | b :: rest =>
    if b < 0x80 then Char.ofNat b.toNat :: ofBytes rest
    else match following? b with
      | none => replacement :: ofBytes rest
      | some (count, least, most) => continueWith (startOf b) count least most rest

/-- The character of which `value` and so many bytes more are known, and those behind it. -/
def continueWith (value count : Nat) (least most : UInt8) : List UInt8 → List Char
  | [] => [replacement]
  | b :: rest =>
    if least ≤ b && b ≤ most then
      let value := value * 64 + (b.toNat - 0x80)
      if count ≤ 1 then Char.ofNat value :: ofBytes rest
      else continueWith value (count - 1) 0x80 0xBF rest
    else if b < 0x80 then replacement :: Char.ofNat b.toNat :: ofBytes rest
    else match following? b with
      | none => replacement :: replacement :: ofBytes rest
      | some (count, least, most) =>
        replacement :: continueWith (startOf b) count least most rest

end

@[simp] theorem ofBytes_nil : ofBytes [] = [] := by simp [ofBytes]

end FlexForm.Text
