import FlexForm.Proofs.Path.Segments

/-! # Paths put together

Writing bracketed indices as segments brings up no other bracketed index, as the brackets that stay
are followed by what they were followed by before. So the segments of a path, joined by dots, are
split in the same way again.

* `hasIndex_unbracket`: no bracketed index is left.
* `segments_join`: splitting what was split and joined.
* `segments_composed`: the segments of paths that are put together.
-/

namespace FlexForm.Path
set_option autoImplicit false

/-! ## Brackets that stay -/

theorem unbracket_cons_of_ne {c : Char} (h : c ≠ '[') (s : List Char) :
    unbracket false (c :: s) = c :: unbracket false s := by
  simp [unbracket, h]

theorem unbracket_open (s : List Char) : ∃ c rest, unbracket false ('[' :: s) = c :: rest ∧
    Text.isDecimalDigit c = false ∧ c ≠ ']' := by
  rw [unbracket, if_neg Bool.false_ne_true]
  split
  next => exact ⟨'.', _, rfl, by decide, by decide⟩
  next => exact ⟨'[', _, rfl, by decide, by decide⟩

theorem closes_unbracket (s : List Char) : closes (unbracket false s) = closes s := by
  induction s with
  | nil => rfl
  | cons d s ih =>
    by_cases hd : d = '['
    · subst hd
      obtain ⟨c, rest, hrest, hdigit, hc⟩ := unbracket_open s
      have hopen : Text.isDecimalDigit '[' = false := by decide
      rw [hrest, closes_cons_of_not_digit hdigit, closes_cons_of_not_digit hopen,
        beq_eq_false_iff_ne.2 hc]
      rfl
    · rw [unbracket_cons_of_ne hd]
      cases hdec : Text.isDecimalDigit d with
      | true => rw [closes_cons_of_digit hdec, closes_cons_of_digit hdec, ih]
      | false => rw [closes_cons_of_not_digit hdec, closes_cons_of_not_digit hdec]

theorem closesIndex_unbracket (s : List Char) :
    closesIndex (unbracket false s) = closesIndex s := by
  cases s with
  | nil => rfl
  | cons d s =>
    by_cases hd : d = '['
    · subst hd
      obtain ⟨c, rest, hrest, hdigit, -⟩ := unbracket_open s
      have hopen : Text.isDecimalDigit '[' = false := by decide
      rw [hrest, closesIndex_cons, closesIndex_cons, hdigit, hopen, Bool.false_and, Bool.false_and]
    · rw [unbracket_cons_of_ne hd, closesIndex_cons, closesIndex_cons, closes_unbracket]

/-- Between brackets are only digits, up to the bracket that closes them. -/
theorem hasIndex_unbracket (inside : Bool) (s : List Char) (h : inside = true → closes s = true) :
    hasIndex (unbracket inside s) = false := by
  induction s generalizing inside with
  | nil => rfl
  | cons c s ih =>
    have hout := ih false (by simp)
    cases inside with
    | true =>
      by_cases hc : c = ']'
      · simp [unbracket, hc, hout]
      · obtain ⟨hdigit, hcloses⟩ := digit_of_closes (h rfl) hc
        have hopen : c ≠ '[' := by
          rintro rfl
          exact absurd hdigit (by decide)
        have hin := ih true fun _ => hcloses
        simp [unbracket, hc, hasIndex, hopen, hin]
    | false =>
      rw [unbracket, if_neg Bool.false_ne_true]
      split
      next hopens =>
        have hin := ih true fun _ => closes_of_closesIndex (Bool.and_eq_true_iff.1 hopens).2
        simp [hasIndex, hin]
      next hstays =>
        rw [hasIndex, closesIndex_unbracket, hout, Bool.or_false, Bool.eq_false_iff.2 hstays]

/-! ## Joining -/

theorem intercalate_splitDots (s : List Char) : ['.'].intercalate (splitDots s) = s := by
  induction s with
  | nil => rfl
  | cons c s ih =>
    obtain ⟨piece, pieces, hpieces⟩ := List.exists_cons_of_ne_nil (splitDots_ne_nil s)
    rw [splitDots, hpieces]
    rw [hpieces] at ih
    split
    next hc =>
      rw [List.intercalate_cons_cons, ih, eq_of_beq hc]
      rfl
    next =>
      cases pieces with
      | nil => rw [List.intercalate_singleton, ← ih, List.intercalate_singleton]
      | cons other others =>
        rw [List.intercalate_cons_cons, ← ih, List.intercalate_cons_cons]
        rfl

/-- The segments joined by dots are the path without bracketed indices. -/
theorem intercalate_segments (path : String) :
    ".".intercalate (segments path) = String.ofList (unbracket false path.toList) := by
  have hpieces : (segments path).map String.toList = splitDots (unbracket false path.toList) := by
    simp [segments]
  rw [← String.toList_inj, String.toList_intercalate, hpieces]
  exact (intercalate_splitDots _).trans String.toList_ofList.symm

/-- Splitting, joining and splitting again comes to the same segments. -/
theorem segments_join (path : String) :
    segments (".".intercalate (segments path)) = segments path := by
  have hnone : hasIndex (unbracket false path.toList) = false :=
    hasIndex_unbracket false path.toList (by simp)
  rw [intercalate_segments, segments, String.toList_ofList, unbracket_of_not_hasIndex hnone,
    segments]

/-! ## Composed paths -/

/-- A path falls apart at dots and in front of bracketed indices, also where its brackets are not
balanced, and an index is the same in brackets as behind a dot, for reading and for writing. -/
theorem segments_composed (a b r : String) {n : String} (hne : n ≠ "")
    (h : ∀ d ∈ n.toList, Text.isDecimalDigit d = true) :
    segments (a ++ "." ++ b) = segments a ++ segments b ∧
    segments (a ++ "[" ++ n ++ "]") = segments a ++ [n] ∧
    segments (a ++ "[" ++ n ++ "]" ++ r) = segments (a ++ "." ++ n ++ r) ∧
    (∀ v value : Json, v.at? (a ++ "[" ++ n ++ "]" ++ r) = v.at? (a ++ "." ++ n ++ r) ∧
      v.assign (a ++ "[" ++ n ++ "]" ++ r) value = v.assign (a ++ "." ++ n ++ r) value) ∧
    segments (".".intercalate (segments a)) = segments a := by
  have hspelling := segments_bracket a r hne h
  refine ⟨segments_dot a b, segments_index a hne h, hspelling, fun v value => ⟨?_, ?_⟩,
    segments_join a⟩
  · rw [Json.at?, Json.at?, hspelling]
  · simp only [Json.assign, hspelling]

theorem segments_composed_unbalanced :
    segments ("x[[1]" ++ "." ++ "2]") = ["x[", "1", "2]"] ∧
    segments ("x[[1]" ++ "[" ++ "20" ++ "]") = ["x[", "1", "20"] ∧
    segments ("x[[1]" ++ "[" ++ "20" ++ "]" ++ "3]") = ["x[", "1", "203]"] := by
  have hdigits : ∀ d ∈ "20".toList, Text.isDecimalDigit d = true := List.all_eq_true.1 (by decide)
  obtain ⟨hdot, hindex, hspelling, -⟩ := segments_composed "x[[1]" "2]" "3]" (by decide) hdigits
  rw [hdot, hindex, hspelling]
  decide +kernel

end FlexForm.Path
