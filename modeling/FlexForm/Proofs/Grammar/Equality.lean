import FlexForm.Proofs.Grammar.Meaning
import FlexForm.Proofs.Json.Equality

/-! # Equality in template texts

The helpers of template texts compare values that were taken in from JSON just as the JSON values
are compared, so they share the laws of strict equality and its one gap.

* `Value.equiv_ofJson`: equality of values taken in.
* `strictEquals_laws`: the laws, and which truth values are taken for numbers.
-/

namespace FlexForm.Grammar
set_option autoImplicit false

/-! ## Values taken in -/

namespace Value

theorem length_ofFields (fields : List (String × Json)) :
    (ofFields fields).length = fields.length := by
  induction fields with
  | nil => rfl
  | cons f rest ih =>
    obtain ⟨k, v⟩ := f
    rw [ofFields, List.length_cons, List.length_cons, ih]

theorem any_ofFields {fields : List (String × Json)} (hkeys : (Fields.keys fields).Nodup)
    (k : String) (v : Value) :
    ((ofFields fields).any fun e => (Value.str k).equiv e.1 && v.equiv e.2) =
      ((Fields.get? fields k).map fun w => v.equiv (ofJson w)).getD false := by
  induction fields with
  | nil => rfl
  | cons f rest ih =>
    obtain ⟨l, w⟩ := f
    have hkey : (Value.str k).equiv (.str l) = (k == l) := rfl
    rw [Fields.keys, List.map_cons, List.nodup_cons] at hkeys
    rw [ofFields, List.any_cons, ih hkeys.2, hkey, Fields.get?_cons]
    by_cases hl : l = k
    · subst hl
      simp [Fields.get?_eq_none_of_not_mem hkeys.1]
    · simp [hl, Ne.symm hl]

mutual

/-- Values that were taken in are equal just as before. -/
theorem equiv_ofJson (v w : Json) (hw : w.hasDistinctKeys = true) :
    (ofJson v).equiv (ofJson w) = v.equiv w := by
  cases v with
  | arr xs =>
    cases w with
    | arr ys =>
      rw [ofJson, ofJson, equiv, Json.equiv]
      exact equivItems_ofItems xs ys hw
    | null | bool | int | float | str | obj => rfl
  | obj fs =>
    cases w with
    | obj gs =>
      rw [ofJson, ofJson, equiv, Json.equiv, length_ofFields, length_ofFields,
        equivEntries_ofFields fs gs hw]
    | null | bool | int | float | str | arr => rfl
  | null | bool | int | float | str => cases w <;> rfl

theorem equivItems_ofItems (xs ys : List Json) (hys : Json.haveDistinctKeys ys = true) :
    equivItems (ofItems xs) (ofItems ys) = Json.equivItems xs ys := by
  cases xs with
  | nil => cases ys <;> rfl
  | cons x xs =>
    cases ys with
    | nil => rfl
    | cons y ys =>
      rw [Json.haveDistinctKeys, Bool.and_eq_true] at hys
      rw [ofItems, ofItems, equivItems, Json.equivItems, equiv_ofJson x y hys.1,
        equivItems_ofItems xs ys hys.2]

theorem equivEntries_ofFields (fs gs : List (String × Json)) (hgs : Json.fieldsDistinct gs = true) :
    equivEntries (ofFields fs) (ofFields gs) = Json.equivFields fs gs := by
  cases fs with
  | nil => rfl
  | cons f fs =>
    obtain ⟨k, v⟩ := f
    rw [ofFields, equivEntries, Json.equivFields, equivEntries_ofFields fs gs hgs,
      any_ofFields (Json.nodup_keys_of_fieldsDistinct hgs)]
    cases hw : Fields.get? gs k with
    | none => rfl
    | some w =>
      rw [Json.fieldsDistinct_eq_all, Bool.and_eq_true, List.all_eq_true] at hgs
      have hdistinct : w.hasDistinctKeys = true := hgs.2 (k, w) (Fields.mem_of_get? hw)
      rw [Option.map_some, Option.getD_some, equiv_ofJson v w hdistinct]

end

end Value

/-! ## The helpers -/

open Json

theorem sameValue_ofJson (v w : Json) (hw : w.hasDistinctKeys = true) :
    sameValue (.ofJson v) (.ofJson w) = v.strictEquals w := by
  have hequiv := Value.equiv_ofJson v w hw
  cases v <;> cases w <;> first | rfl | exact hequiv

theorem call_eq (v w : Value) : Helper.eq.call ⟨[v, w], []⟩ = .ok (.bool (sameValue v w)) := rfl

theorem call_ne (v w : Value) : Helper.ne.call ⟨[v, w], []⟩ = .ok (.bool (!sameValue v w)) := rfl

/-- Strict equality is an equivalence, and the helpers share it. It tells truth values from numbers
at the top; at any position below, a truth value passes for the number one or zero. -/
theorem strictEquals_laws {a b c : Json} (ha : a.IsComparable) (hb : b.IsComparable)
    (hc : c.IsComparable) :
    a.strictEquals a = true ∧
    (a.strictEquals b = true → b.strictEquals a = true) ∧
    (a.strictEquals b = true → b.strictEquals c = true → a.strictEquals c = true) ∧
    (a.strictEquals b = true → ∀ steps t n, MixedAt a b steps t n ∨ MixedAt b a steps t n →
      steps ≠ [] ∧ n.sight = (Json.bool t).sight) ∧
    (∀ (position : Position) (t : Bool), position ≠ .here → position.fill (.bool t) = a →
      a.strictEquals (position.fill (.int (if t then 1 else 0))) = true) ∧
    Helper.eq.call ⟨[.ofJson a, .ofJson b], []⟩ = .ok (.bool (a.strictEquals b)) ∧
    Helper.ne.call ⟨[.ofJson a, .ofJson b], []⟩ = .ok (.bool (!a.strictEquals b)) := by
  refine ⟨strictEquals_self ha, strictEquals_symm ha hb, strictEquals_trans ha hb hc,
    ?_, ?_, ?_, ?_⟩
  · rintro h steps t n (hmixed | hmixed)
    · exact hmixed.of_strictEquals ha hb h
    · exact hmixed.of_strictEquals hb ha (strictEquals_symm ha hb h)
  · rintro position t hposition rfl
    exact strictEquals_fill_bool hposition t ha
  · rw [call_eq, sameValue_ofJson a b hb.distinct]
  · rw [call_ne, sameValue_ofJson a b hb.distinct]

/-- A list of a truth value equals the list of its number. -/
theorem strictEquals_laws_of_lists :
    MixedAt (.arr [.bool true]) (.arr [.int 1]) [.index 0] true (.int 1) ∧
    strictEquals (.arr [.bool true]) (.arr [.int 1]) = true ∧
    Helper.eq.call ⟨[.ofJson (.arr [.bool true]), .ofJson (.arr [.int 1])], []⟩ =
      .ok (.bool true) := by
  have hbools : (Json.arr [.bool true]).IsComparable := .of_isFinite rfl rfl
  have hints : (Json.arr [.int 1]).IsComparable := .of_isFinite rfl rfl
  obtain ⟨-, -, -, -, hfill, heq, -⟩ := strictEquals_laws hbools hints hints
  have hequal : strictEquals (.arr [.bool true]) (.arr [.int 1]) = true :=
    hfill (.item [] .here []) true (by simp) rfl
  rw [hequal] at heq
  exact ⟨⟨rfl, rfl, rfl⟩, hequal, heq⟩

end FlexForm.Grammar
