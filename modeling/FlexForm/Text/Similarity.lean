/-! # Similar texts

How much of two texts is the same, piece by piece: the longest piece that both have counts, and so
do the pieces that the parts before it and the parts behind it have in common.

* `longestShared`: the longest piece that two texts have in common.
* `sharedSize`: the size of all pieces in common.
* `closest`: the texts most similar to a given one.
-/

namespace FlexForm.Text
set_option autoImplicit false

/-- The number of characters with which both texts start. -/
def sharedStart : List Char → List Char → Nat
  | a :: as, b :: bs => if a = b then sharedStart as bs + 1 else 0
  | _, _ => 0

/-- A piece that two texts have in common: where it starts in each of them, and its size. -/
structure Shared where
  left : Nat
  right : Nat
  size : Nat
  deriving DecidableEq, Inhabited

/-- The longest piece that two texts have in common, the first one of several. -/
def longestShared (as bs : List Char) : Shared :=
  let places := (List.range as.length).flatMap fun i => (List.range bs.length).map fun j =>
    (⟨i, j, sharedStart (as.drop i) (bs.drop j)⟩ : Shared)
  places.foldl (fun best s => if best.size < s.size then s else best) ⟨0, 0, 0⟩

/-- The size of all pieces that two texts have in common; `fuel` is not less than the size of the
first one. -/
def sharedSizeWith : Nat → List Char → List Char → Nat
  | 0, _, _ => 0
  | fuel + 1, as, bs =>
    let s := longestShared as bs
    if s.size = 0 then 0
    else sharedSizeWith fuel (as.take s.left) (bs.take s.right) + s.size +
      sharedSizeWith fuel (as.drop (s.left + s.size)) (bs.drop (s.right + s.size))

def sharedSize (as bs : List Char) : Nat := sharedSizeWith as.length as bs

/-- Whether the first similarity is less than the second one, of two shares of a whole each. -/
def isLessSimilar (a b : Nat × Nat) : Bool := a.1 * b.2 < b.1 * a.2

/-- At most three of the texts, the most similar ones first, of which at least three fifths are in
common with the given one. Of equally similar ones, the greater one comes first. -/
def closest (text : String) (texts : List String) : List String :=
  let rated := texts.map fun other =>
    ((2 * sharedSize other.toList text.toList, other.length + text.length), other)
  let near := rated.filter fun r => !isLessSimilar r.1 (3, 5)
  let sorted := near.mergeSort fun a b =>
    isLessSimilar b.1 a.1 || (!isLessSimilar a.1 b.1 && !(a.2 < b.2))
  (sorted.take 3).map Prod.snd

end FlexForm.Text
