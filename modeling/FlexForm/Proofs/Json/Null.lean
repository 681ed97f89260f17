import FlexForm.Proofs.Json.Reading
import Mathlib.Data.List.TakeWhile

/-! # Texts of null

Null is read from its word alone, however much white space stands around it. This is what tells a
text without a message from a text that is no JSON.

* `IsNullText`: the texts of null.
* `readChars_eq_null_iff`: they are the texts that are read as null.
-/

namespace FlexForm.Json
set_option autoImplicit false

/-- The text is the word for null, with white space around it. -/
def IsNullText (s : List Char) : Prop :=
  ∃ before after, before.all isSpace = true ∧ after.all isSpace = true ∧
    s = before ++ ['n', 'u', 'l', 'l'] ++ after

section
variable {special : Bool} {s rest : List Char}

theorem readScalar_null (h : readScalar special s = .ok (.null, rest)) :
    s = 'n' :: 'u' :: 'l' :: 'l' :: rest := by
  rcases readScalar_eq_ok_iff.1 h with ⟨word, hname, rfl⟩ | hnumber
  · have hnames : ∀ p ∈ scalarNames special, p.2 = .null → p.1 = ['n', 'u', 'l', 'l'] := by
      cases special <;> simp [scalarNames]
    have hword : word = ['n', 'u', 'l', 'l'] := hnames _ hname rfl
    rw [hword]
    rfl
  · rcases readNumber_cases hnumber with ⟨n, hn⟩ | ⟨_, _, _, hx⟩
    · cases hn
    · cases hx

theorem readValue_null {fuel : ℕ} (h : readValue special fuel s = .ok (.null, rest)) :
    s = 'n' :: 'u' :: 'l' :: 'l' :: rest := by
  cases fuel with
  | zero => cases h
  | succ fuel =>
    cases readValue_eq_ok_iff.1 h with
    | scalar hread => exact readScalar_null hread

theorem isNullText_of_readChars (h : readChars special s = .ok .null) : IsNullText s := by
  obtain ⟨-, more, hread, hmore⟩ := readChars_eq_ok_iff.1 h
  refine ⟨s.takeWhile isSpace, more, List.all_takeWhile, ?_, ?_⟩
  · rw [skipSpace, List.dropWhile_eq_nil_iff] at hmore
    exact List.all_eq_true.2 hmore
  · have hword : s.dropWhile isSpace = ['n', 'u', 'l', 'l'] ++ more := readValue_null hread
    rw [List.append_assoc, ← hword, List.takeWhile_append_dropWhile]

theorem spells_of_all_isSpace {after : List Char} (h : after.all isSpace = true) :
    Spells special after [] := by
  induction after with
  | nil => exact .done
  | cons c rest ih =>
    rw [List.all_cons, Bool.and_eq_true] at h
    exact .space h.1 (ih h.2)

theorem spells_append_left {before : List Char} {qs : List Piece} (h : before.all isSpace = true)
    (hs : Spells special s qs) : Spells special (before ++ s) qs := by
  induction before with
  | nil => exact hs
  | cons c rest ih =>
    rw [List.all_cons, Bool.and_eq_true] at h
    exact .space h.1 (ih h.2)

/-- Null is what is read exactly from its word with white space around it. -/
theorem readChars_eq_null_iff : readChars special s = .ok .null ↔ IsNullText s := by
  refine ⟨isNullText_of_readChars, ?_⟩
  rintro ⟨before, after, hbefore, hafter, rfl⟩
  have hword : Spells special (['n', 'u', 'l', 'l'] ++ after) (pieces .null []) :=
    .scalar rfl rfl (by simp; omega) (spells_of_all_isSpace hafter)
  rw [List.append_assoc]
  exact readChars_of_spells rfl (spells_append_left hbefore hword)

end

end FlexForm.Json
