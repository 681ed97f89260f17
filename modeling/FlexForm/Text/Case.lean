import FlexForm.Text.CaseTable

/-! # Case conversion

Upper and lower case of whole texts. One character may become several, and the capital sigma is
written differently at the end of a word.

* `upper`, `lower`: the conversions.
* `foldCase`: one character that stands for all cases of a character, for comparisons that ignore
  case.
-/

namespace FlexForm.Text
set_option autoImplicit false

private def shiftBy (n : Nat) (runs : List CaseRun) : Nat :=
  match runs.find? fun r => r.first ≤ n && n ≤ r.last && (n - r.first) % r.step == 0 with
  | some r => (Int.ofNat n + r.shift).toNat
  | none => n

def upperChar (c : Char) : List Char :=
  if c.toNat < 128 then [c.toUpper]
  else match upperLong.find? (·.1 == c.toNat) with
    | some (_, parts) => parts.map Char.ofNat
    | none => [Char.ofNat (shiftBy c.toNat upperRuns)]

/-- The lower case of one character outside any word. -/
def lowerChar (c : Char) : List Char :=
  if c.toNat < 128 then [c.toLower]
  else if c.toNat == 0x130 then ['i', Char.ofNat 0x307]
  else [Char.ofNat (shiftBy c.toNat lowerRuns)]

/-- Whether a cased character comes first once the ignorable ones are skipped. -/
private def meetsCased (s : List Char) : Bool :=
  match s.dropWhile caseIgnorable.has with
  | c :: _ => casedLetters.has c
  | [] => false

/-- Lower case of the text `s`, where `before` holds what stands in front of it, last first. -/
private def lowerAfter (before : List Char) : List Char → List Char
  | [] => []
  | c :: rest =>
    let small :=
      if c.toNat == 0x3A3 then
        [Char.ofNat (if meetsCased before && !meetsCased rest then 0x3C2 else 0x3C3)]
      else lowerChar c
    small ++ lowerAfter (c :: before) rest

def upper (s : String) : String := String.ofList (s.toList.flatMap upperChar)

def lower (s : String) : String := String.ofList (lowerAfter [] s.toList)

/-- One character for all cases of `c`, as far as single characters go. -/
def foldCase (c : Char) : Char :=
  let up := match upperChar c with
    | [u] => u
    | _ => c
  match lowerChar up with
    | [l] => l
    | _ => c

end FlexForm.Text
