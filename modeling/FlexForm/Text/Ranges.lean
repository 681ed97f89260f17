/-! # Ranges of code points

A set of characters is given by its ranges of code points, lowest first, both ends included.

* `CodeRanges` and `CodeRanges.has`: the set and its membership test.
-/

namespace FlexForm.Text
set_option autoImplicit false

/-- A set of characters, as ranges of code points with both ends included. -/
abbrev CodeRanges := List (Nat × Nat)

def CodeRanges.has (ranges : CodeRanges) (c : Char) : Bool :=
  ranges.any fun r => r.1 ≤ c.toNat && c.toNat ≤ r.2

theorem CodeRanges.has_iff {ranges : CodeRanges} {c : Char} :
    ranges.has c = true ↔ ∃ r ∈ ranges, r.1 ≤ c.toNat ∧ c.toNat ≤ r.2 := by
  simp [CodeRanges.has]

theorem CodeRanges.has_append (a b : CodeRanges) (c : Char) :
    CodeRanges.has (a ++ b) c = (a.has c || b.has c) := by
  simp [CodeRanges.has]

end FlexForm.Text
