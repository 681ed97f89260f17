import FlexForm.Json.Display
import FlexForm.Path.Access
import FlexForm.Problem

/-! # Placeholders

The plain form of templates: a text with placeholders, each of which names a value of the form data
by its path. A substitution fails as a whole when a placeholder has no value.

* `Placeholder.cut`: a text as characters and placeholders.
* `Placeholder.valueText`: the text that stands for a value.
* `Placeholder.fill`: the text with all placeholders replaced.
-/

namespace FlexForm.Placeholder
set_option autoImplicit false

/-- What a placeholder starts with. -/
def opening : String := "$\x7bdata."

inductive Piece where
  | char (c : Char)
  | field (path : String)
  deriving DecidableEq

/-- The path of the placeholder at the start of a text, if there is one. -/
def pathAt? (s : List Char) : Option (List Char) :=
  match s with
  | '$' :: '\x7b' :: 'd' :: 'a' :: 't' :: 'a' :: '.' :: rest =>
    let path := rest.takeWhile (· != '\x7d')
    if path.isEmpty || path.length == rest.length then none else some path
  | _ => none

/-- The pieces of a text, but for its first `skip` characters, which belong to a placeholder. -/
def cut (skip : Nat) : List Char → List Piece
  | [] => []
  | c :: rest =>
    match skip with
    | n + 1 => cut n rest
    | 0 =>
      match pathAt? (c :: rest) with
      | some path => .field (String.ofList path) :: cut (path.length + 7) rest
      | none => .char c :: cut 0 rest

/-- The text that stands for a value: itself for a text, and its JSON text otherwise, except that
the special numbers have their short names. -/
def valueText : Json → List Char
  | .str s => s.toList
  | .float x => Layout.display.write x
  | v => v.chars

/-- The substituted text, or the problems of the placeholders without a value. -/
def fillPieces (data : Json) : List Piece → Except PathFault (List Char × List Problem)
  | [] => .ok ([], [])
  | .char c :: rest => do
    let (text, problems) ← fillPieces data rest
    pure (c :: text, problems)
  | .field path :: rest => do
    let value ← data.at? path
    let (text, problems) ← fillPieces data rest
    match value with
    | some v => pure (valueText v ++ text, problems)
    | none => pure (text, ⟨s!"data.{path}", .unresolved path, none⟩ :: problems)

/-- The text with all placeholders replaced, or the problems of those without a value. -/
def fill (source : String) (data : Json) : Except PathFault (Except (List Problem) String) := do
  let (text, problems) ← fillPieces data (cut 0 source.toList)
  pure (if problems.isEmpty then .ok (String.ofList text) else .error problems)

theorem cut_zero_of_no_placeholder {c : Char} {rest : List Char}
    (h : pathAt? (c :: rest) = none) : cut 0 (c :: rest) = .char c :: cut 0 rest := by
  simp [cut, h]

end FlexForm.Placeholder
