import FlexForm.Grammar.Token
import FlexForm.Json.Reader

/-! # Escapes in texts between quotes

A backslash and what follows it stand for one character, for none at all, or for themselves.

* `Escape.decode`: the text that is meant.
-/

namespace FlexForm.Grammar.Escape
set_option autoImplicit false

/-- The number that exactly `count` hexadecimal digits stand for. -/
def hex? (count : Nat) (s : List Char) : Option Nat :=
  let digits := (s.take count).filterMap Json.hexValue?
  if digits.length == count then some (digits.foldl (fun n d => 16 * n + d) 0) else none

/-- The number that one to three octal digits stand for, and how many there are. -/
def octal (s : List Char) : Nat × Nat :=
  let digits := (s.take 3).takeWhile fun c => '0' ≤ c && c ≤ '7'
  (digits.foldl (fun n d => 8 * n + (d.toNat - 48)) 0, digits.length)

/-- A character beyond the first 128 as it is written with digits, less its backslash. -/
def spelled (c : Char) : List Char :=
  let n := c.toNat
  if n < 0x100 then 'x' :: Text.hexDigits 2 n
  else if n < 0x10000 then 'u' :: Text.hexDigits 4 n
  else 'U' :: Text.hexDigits 8 n

/-- What the single letter behind a backslash stands for. -/
def letter? : Char → Option (List Char)
  | '\n' => some []
  | '\\' => some ['\\']
  | '\'' => some ['\'']
  | '"' => some ['"']
  | 'b' => some ['\x08']
  | 'f' => some ['\x0c']
  | 't' => some ['\t']
  | 'n' => some ['\n']
  | 'r' => some ['\r']
  | 'v' => some ['\x0b']
  | 'a' => some ['\x07']
  | _ => none

/-- What the escape stands for that begins with `c`, and how many characters behind `c` belong to
it. -/
def one (c : Char) (rest : List Char) : Except Cause (List Char × Nat) :=
  let numbered (count : Nat) (shape : String) : Except Cause (List Char × Nat) :=
    match hex? count rest with
    | none => .error (.truncatedEscape shape)
    | some n =>
      if n > 0x10FFFF then .error .illegalCharacter else .ok ([Char.ofNat n], count)
  match letter? c with
  | some s => .ok (s, 0)
  | none =>
    if c == 'x' then numbered 2 "\\xXX"
    else if c == 'u' then numbered 4 "\\uXXXX"
    else if c == 'U' then numbered 8 "\\UXXXXXXXX"
    else if c == 'N' then
      match rest with
      | '{' :: name =>
        if name.contains '}' && name.head? != some '}' then .error .unknownNamed
        else .error .malformedNamed
      | _ => .error .malformedNamed
    else if '0' ≤ c && c ≤ '7' then
      let (n, count) := octal (c :: rest)
      .ok ([Char.ofNat n], count - 1)
    else if c.toNat ≥ 128 then .ok ('\\' :: spelled c, 0)
    else .ok (['\\', c], 0)

/-- The text that is meant by what follows the next `skip` characters. -/
def decodeFrom : Nat → List Char → Except Cause (List Char)
  | _, [] => .ok []
  | skip + 1, _ :: rest => decodeFrom skip rest
  | 0, '\\' :: c :: rest => do
    let (meant, count) ← one c rest
    return meant ++ (← decodeFrom count rest)
  | 0, c :: rest => do return c :: (← decodeFrom 0 rest)

/-- The text that is meant by the characters between two quotes. -/
def decode (s : List Char) : Except Cause String := (decodeFrom 0 s).map String.ofList

end FlexForm.Grammar.Escape
