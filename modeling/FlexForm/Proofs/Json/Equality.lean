import FlexForm.Proofs.Message.Walk
import FlexForm.Proofs.Number.Rounding

/-! # Equality of values

Two values are equal by value exactly if they look the same at all positions, where a number is seen
as its size, and a truth value as the number one or zero. So equality is an equivalence. Strict
equality asks for truth values on both sides or on none, but only at the top: inside of lists and
objects it takes a truth value for the number that it is seen as.

* `Quantity`, `Sight`: what is seen of a value without its parts.
* `Json.sightAt`: what is seen at the end of some steps.
* `Json.equiv_iff`, `Json.strictEquals_iff`: equality as sameness of all sights.
* `Json.MixedAt`: a truth value on the one side and a number on the other.
-/

namespace FlexForm
set_option autoImplicit false

/-! ## Sizes of numbers -/

/-- The size of a number. -/
inductive Quantity where
  | finite (q : ℚ)
  | infinite (negative : Bool)
  | undefined

namespace Binary64

def quantity (x : Binary64) : Quantity :=
  if x.isNaN then .undefined
  else if x.isFinite then .finite (x.scaled / 2 ^ 1074)
  else .infinite x.isNegative

variable {x y : Binary64}

theorem magnitude_lt (x : Binary64) : x.magnitude < 2 ^ 2200 := by
  have hshift : 2 ^ x.shift ≤ 2 ^ (2 ^ 11) := Nat.pow_le_pow_right (by decide) x.shift_lt.le
  have hlt : x.magnitude < 2 ^ 53 * 2 ^ (2 ^ 11) :=
    Nat.mul_lt_mul_of_lt_of_le x.significand_lt hshift (by positivity)
  rw [← pow_add] at hlt
  exact hlt.trans_le (pow_le_pow_right₀ one_le_two (by decide))

theorem abs_scaled_lt (x : Binary64) : |x.scaled| < 2 ^ 2200 := by
  have h : (x.magnitude : ℤ) < 2 ^ 2200 := by exact_mod_cast x.magnitude_lt
  unfold scaled
  split
  · rwa [abs_neg, Nat.abs_cast]
  · rwa [Nat.abs_cast]

theorem same_iff (hx : x.isNaN = false) (hy : y.isNaN = false) :
    x.same y = true ↔ x.quantity = y.quantity := by
  have hlow := abs_lt.1 x.abs_scaled_lt
  have hhigh := abs_lt.1 y.abs_scaled_lt
  have hunit : (2 ^ 1074 : ℚ) ≠ 0 := by positivity
  simp only [same, quantity, rank, hx, hy]
  generalize (2 : ℤ) ^ 2200 = beyond at *
  cases x.isFinite with
  | true =>
    cases y.isFinite with
    | true => simp [div_left_inj' hunit]
    | false => cases y.isNegative <;> simp <;> omega
  | false =>
    cases y.isFinite with
    | true => cases x.isNegative <;> simp <;> omega
    | false => cases x.isNegative <;> cases y.isNegative <;> simp <;> omega

theorem compareInt?_iff {n : ℤ} (hx : x.isNaN = false) :
    x.compareInt? n = some .eq ↔ x.quantity = .finite n := by
  have hunit : (2 ^ 1074 : ℚ) ≠ 0 := by positivity
  simp only [compareInt?, quantity, hx]
  cases x.isFinite with
  | true =>
    have hcast : (x.scaled : ℚ) = ((n * 2 ^ 1074 : ℤ) : ℚ) ↔ x.scaled = n * 2 ^ 1074 := Int.cast_inj
    rw [Int.cast_mul, Int.cast_pow, Int.cast_ofNat, ← div_eq_iff hunit] at hcast
    simp only [Bool.false_eq_true, if_false, if_true, Option.some.injEq, Quantity.finite.injEq,
      compare_eq_iff_eq]
    exact hcast.symm
  | false => cases x.isNegative <;> simp

end Binary64

/-! ## Sights -/

/-- What is seen of a value without its parts. A truth value looks like a number. -/
inductive Sight where
  | null
  | number (size : Quantity)
  | text (s : String)
  | list
  | object

namespace Json

open Message (Step)

def sight : Json → Sight
  | .null => .null
  | .bool b => .number (.finite (if b then 1 else 0 : ℤ))
  | .int n => .number (.finite n)
  | .float x => .number x.quantity
  | .str s => .text s
  | .arr _ => .list
  | .obj _ => .object

def isBool : Json → Bool
  | .bool _ => true
  | _ => false

/-- The part to which a step leads. -/
def part? : Json → Step → Option Json
  | .arr items, .index n => items[n]?
  | .obj fields, .key name => Fields.get? fields name
  | _, _ => none

/-- The value to which the steps lead. -/
def inside? (v : Json) : List Step → Option Json
  | [] => some v
  | step :: rest => (v.part? step).bind (inside? · rest)

/-- What is seen at the end of the steps. -/
def sightAt (v : Json) (steps : List Step) : Option Sight := (v.inside? steps).map sight

/-- No object has a key twice, and no number is a NaN. -/
structure IsComparable (v : Json) : Prop where
  distinct : v.hasDistinctKeys = true
  numbers : ∀ steps x, v.inside? steps = some (.float x) → x.isNaN = false

variable {v w : Json} {step : Step} {rest : List Step}

theorem sightAt_cons : v.sightAt (step :: rest) = (v.part? step).bind (sightAt · rest) := by
  rw [sightAt, inside?, Option.map_bind]
  rfl

theorem Hereditary.part {p : Json → Bool} {keys : List String → Bool} (hp : Hereditary p keys)
    (h : p v = true) (hpart : v.part? step = some w) : p w = true := by
  cases v with
  | arr items =>
    cases step with
    | index n =>
      rw [hp.arr, List.all_eq_true] at h
      exact h w (List.mem_of_getElem? hpart)
    | key name => cases hpart
  | obj fields =>
    cases step with
    | index n => cases hpart
    | key name =>
      rw [hp.obj, Bool.and_eq_true, List.all_eq_true] at h
      exact h.2 (name, w) (Fields.mem_of_get? hpart)
  | null | bool | int | float | str => cases hpart

theorem Hereditary.inside {p : Json → Bool} {keys : List String → Bool} (hp : Hereditary p keys)
    {steps : List Step} (h : p v = true) (hinside : v.inside? steps = some w) : p w = true := by
  induction steps generalizing v with
  | nil =>
    cases hinside
    exact h
  | cons step rest ih =>
    obtain ⟨x, hx, hrest⟩ := Option.bind_eq_some_iff.1 hinside
    exact ih (hp.part h hx) hrest

theorem IsComparable.part (h : v.IsComparable) (hpart : v.part? step = some w) :
    w.IsComparable := by
  refine ⟨hereditary_hasDistinctKeys.part h.distinct hpart, fun steps x hx => ?_⟩
  refine h.numbers (step :: steps) x ?_
  rw [inside?, hpart]
  exact hx

theorem IsComparable.of_isFinite (hdistinct : v.hasDistinctKeys = true)
    (hfinite : v.isFinite = true) : v.IsComparable :=
  ⟨hdistinct, fun _ _ hx =>
    Binary64.isNaN_eq_false_of_isFinite (hereditary_isFinite.inside hfinite hx)⟩

/-! ## Equality -/

theorem scalarEquiv_iff (hv : v.IsComparable) (hw : w.IsComparable)
    (hscalar : v.isContainer = false) : v.scalarEquiv w = true ↔ v.sight = w.sight := by
  have hfloat (x : Binary64) (hx : x.isNaN = false) (n : ℤ) :
      (x.compareInt? n == some .eq) = true ↔ x.quantity = .finite n := by
    rw [beq_iff_eq, Binary64.compareInt?_iff hx]
  have hflip (x : Binary64) (n : ℤ) : x.quantity = .finite n ↔ .finite n = x.quantity := eq_comm
  cases v with
  | null | str => cases w <;> simp [scalarEquiv, sight]
  | bool a =>
    cases w with
    | bool b => cases a <;> cases b <;> simp [scalarEquiv, sight]
    | int n =>
      rw [scalarEquiv, sight, sight, beq_iff_eq, Sight.number.injEq, Quantity.finite.injEq,
        Int.cast_inj, eq_comm]
    | float x =>
      simp only [scalarEquiv, sight, Sight.number.injEq, hfloat x (hw.numbers [] x rfl), hflip]
    | null | str | arr | obj => simp [scalarEquiv, sight]
  | int m =>
    cases w with
    | bool b =>
      simp only [scalarEquiv, sight, beq_iff_eq, Sight.number.injEq, Quantity.finite.injEq,
        Int.cast_inj]
    | int n => simp [scalarEquiv, sight]
    | float x =>
      simp only [scalarEquiv, sight, Sight.number.injEq, hfloat x (hw.numbers [] x rfl), hflip]
    | null | str | arr | obj => simp [scalarEquiv, sight]
  | float x =>
    have hx := hv.numbers [] x rfl
    cases w with
    | bool | int => simp only [scalarEquiv, sight, Sight.number.injEq, hfloat x hx]
    | float y =>
      simp only [scalarEquiv, sight, Sight.number.injEq, Binary64.same_iff hx (hw.numbers [] y rfl)]
    | null | str | arr | obj => simp [scalarEquiv, sight]
  | arr | obj => cases hscalar

/-- Two equal parts, or none on both sides. -/
def SamePart : Option Json → Option Json → Prop
  | some v, some w => v.equiv w = true
  | none, none => True
  | _, _ => False

theorem equivItems_iff {xs ys : List Json} :
    equivItems xs ys = true ↔ ∀ n : ℕ, SamePart xs[n]? ys[n]? := by
  induction xs generalizing ys with
  | nil =>
    cases ys with
    | nil => simp [equivItems, SamePart]
    | cons y ys => simpa [equivItems] using ⟨0, by simp [SamePart]⟩
  | cons x xs ih =>
    cases ys with
    | nil => simpa [equivItems] using ⟨0, by simp [SamePart]⟩
    | cons y ys =>
      rw [equivItems, Bool.and_eq_true, ih]
      exact Nat.and_forall_add_one (p := fun n => SamePart (x :: xs)[n]? (y :: ys)[n]?)

theorem equivFields_iff {fs gs : List (String × Json)} :
    equivFields fs gs = true ↔
      ∀ f ∈ fs, ∃ w, Fields.get? gs f.1 = some w ∧ equiv f.2 w = true := by
  induction fs with
  | nil => simp [equivFields]
  | cons f fs ih =>
    obtain ⟨k, v⟩ := f
    rw [equivFields, Bool.and_eq_true, ih, List.forall_mem_cons]
    refine and_congr_left fun _ => ?_
    cases Fields.get? gs k <;> simp

theorem mem_keys_iff {fs : List (String × Json)} {k : String} :
    k ∈ Fields.keys fs ↔ ∃ v, Fields.get? fs k = some v := by
  rw [← Option.isSome_iff_exists, ← List.contains_iff_mem, Fields.keys, ← has_eq_contains]
  rfl

/-- As many keys on both sides are the same keys, if all of the one side are on the other. -/
theorem equiv_obj_iff {fs gs : List (String × Json)} (hfs : (Fields.keys fs).Nodup)
    (hgs : (Fields.keys gs).Nodup) :
    (obj fs).equiv (obj gs) = true ↔ ∀ k, SamePart (Fields.get? fs k) (Fields.get? gs k) := by
  have hlength (fields : List (String × Json)) : fields.length = (Fields.keys fields).length :=
    (List.length_map _).symm
  rw [equiv, Bool.and_eq_true, beq_iff_eq, equivFields_iff, hlength fs, hlength gs]
  constructor
  · rintro ⟨hcount, hfields⟩ k
    have hkeys : Fields.keys fs ⊆ Fields.keys gs := by
      intro k hk
      obtain ⟨v, hv⟩ := mem_keys_iff.1 hk
      obtain ⟨w, hw, -⟩ := hfields (k, v) (Fields.mem_of_get? hv)
      exact mem_keys_iff.2 ⟨w, hw⟩
    have hperm := (hfs.subperm hkeys).perm_of_length_le hcount.ge
    cases hv : Fields.get? fs k with
    | some v =>
      obtain ⟨w, hw, hequiv⟩ := hfields (k, v) (Fields.mem_of_get? hv)
      rw [hw]
      exact hequiv
    | none =>
      have hk : k ∉ Fields.keys gs := by
        rw [← hperm.mem_iff, mem_keys_iff, hv]
        simp
      rw [Fields.get?_eq_none_of_not_mem hk]
      trivial
  · intro hparts
    have hkeys (k : String) : k ∈ Fields.keys fs ↔ k ∈ Fields.keys gs := by
      have hpart := hparts k
      rw [mem_keys_iff, mem_keys_iff]
      cases hv : Fields.get? fs k <;> cases hw : Fields.get? gs k <;> simp_all [SamePart]
    refine ⟨((List.perm_ext_iff_of_nodup hfs hgs).2 hkeys).length_eq, ?_⟩
    rintro ⟨k, v⟩ hf
    have hpart := hparts k
    cases hw : Fields.get? gs k with
    | none => simp [Fields.get?_of_mem hfs hf, hw, SamePart] at hpart
    | some w => exact ⟨w, rfl, by simpa [Fields.get?_of_mem hfs hf, hw, SamePart] using hpart⟩

theorem IsComparable.nodup_keys {fields : List (String × Json)} (h : (obj fields).IsComparable) :
    (Fields.keys fields).Nodup := nodup_keys_of_fieldsDistinct h.distinct

theorem part?_eq_none (h : v.isContainer = false) (step : Step) : v.part? step = none := by
  cases v <;> first | rfl | cases h

theorem equiv_iff_parts (hv : v.IsComparable) (hw : w.IsComparable) :
    v.equiv w = true ↔
      v.sight = w.sight ∧ ∀ step, SamePart (v.part? step) (w.part? step) := by
  cases v with
  | arr xs =>
    cases w with
    | arr ys =>
      rw [equiv, equivItems_iff]
      refine ⟨fun h => ⟨rfl, ?_⟩, fun h n => h.2 (.index n)⟩
      rintro (name | n)
      · trivial
      · exact h n
    | null | bool | int | float | str | obj => simp [equiv, sight]
  | obj fs =>
    cases w with
    | obj gs =>
      rw [equiv_obj_iff hv.nodup_keys hw.nodup_keys]
      refine ⟨fun h => ⟨rfl, ?_⟩, fun h k => h.2 (.key k)⟩
      rintro (name | n)
      · exact h name
      · trivial
    | null | bool | int | float | str | arr => simp [equiv, sight]
  | null | bool | int | float | str =>
    rw [equiv, scalarEquiv_iff hv hw rfl]
    refine (and_iff_left_of_imp fun hsight step => ?_).symm
    rw [part?_eq_none rfl, part?_eq_none]
    · trivial
    · cases w <;> first | rfl | cases hsight

theorem depth_part?_lt (h : v.part? step = some w) : w.depth < v.depth := by
  cases v with
  | arr items =>
    cases step with
    | index n => exact depth_lt_of_mem_items (List.mem_of_getElem? h)
    | key name => cases h
  | obj fields =>
    cases step with
    | index n => cases h
    | key name => exact depth_lt_of_mem_fields (Fields.mem_of_get? h)
  | null | bool | int | float | str => cases h

/-- Values are equal exactly if they look the same at all positions. -/
theorem equiv_iff {v w : Json} (hv : v.IsComparable) (hw : w.IsComparable) :
    v.equiv w = true ↔ ∀ steps, v.sightAt steps = w.sightAt steps := by
  rw [equiv_iff_parts hv hw]
  constructor
  · rintro ⟨hsight, hparts⟩ (_ | ⟨step, rest⟩)
    · exact congrArg some hsight
    · have hpart := hparts step
      rw [sightAt_cons, sightAt_cons]
      cases hx : v.part? step with
      | none => cases hy : w.part? step <;> simp_all [SamePart]
      | some x =>
        cases hy : w.part? step with
        | none => simp [hx, hy, SamePart] at hpart
        | some y =>
          rw [hx, hy] at hpart
          exact (equiv_iff (hv.part hx) (hw.part hy)).1 hpart rest
  · intro h
    refine ⟨Option.some.inj (h []), fun step => ?_⟩
    have hrest (rest) :
        (v.part? step).bind (sightAt · rest) = (w.part? step).bind (sightAt · rest) := by
      rw [← sightAt_cons, ← sightAt_cons, h]
    cases hx : v.part? step with
    | none =>
      cases hy : w.part? step with
      | none => trivial
      | some y => simpa [hx, hy, sightAt, inside?] using hrest []
    | some x =>
      cases hy : w.part? step with
      | none => simpa [hx, hy, sightAt, inside?] using hrest []
      | some y =>
        rw [hx, hy] at hrest
        exact (equiv_iff (hv.part hx) (hw.part hy)).2 hrest
termination_by v.depth
decreasing_by all_goals exact depth_part?_lt hx

theorem strictEquals_eq (v w : Json) : v.strictEquals w = (v.isBool == w.isBool && v.equiv w) := by
  cases v <;> cases w <;> rfl

theorem strictEquals_iff (hv : v.IsComparable) (hw : w.IsComparable) :
    v.strictEquals w = true ↔ v.isBool = w.isBool ∧ ∀ steps, v.sightAt steps = w.sightAt steps := by
  rw [strictEquals_eq, Bool.and_eq_true, beq_iff_eq, equiv_iff hv hw]

theorem strictEquals_self (hv : v.IsComparable) : v.strictEquals v = true :=
  (strictEquals_iff hv hv).2 ⟨rfl, fun _ => rfl⟩

theorem strictEquals_symm (hv : v.IsComparable) (hw : w.IsComparable)
    (h : v.strictEquals w = true) : w.strictEquals v = true := by
  obtain ⟨hkind, hsights⟩ := (strictEquals_iff hv hw).1 h
  exact (strictEquals_iff hw hv).2 ⟨hkind.symm, fun steps => (hsights steps).symm⟩

theorem strictEquals_trans {u : Json} (hu : u.IsComparable) (hv : v.IsComparable)
    (hw : w.IsComparable) (huv : u.strictEquals v = true) (hvw : v.strictEquals w = true) :
    u.strictEquals w = true := by
  obtain ⟨hkind, hsights⟩ := (strictEquals_iff hu hv).1 huv
  obtain ⟨hkind', hsights'⟩ := (strictEquals_iff hv hw).1 hvw
  exact (strictEquals_iff hu hw).2
    ⟨hkind.trans hkind', fun steps => (hsights steps).trans (hsights' steps)⟩

/-! ## Truth values inside -/

theorem sight_eq_undefined_iff :
    v.sight = .number .undefined ↔ ∃ x, v = .float x ∧ x.isNaN = true := by
  cases v with
  | float x =>
    simp only [sight, Binary64.quantity, Sight.number.injEq, float.injEq, exists_eq_left']
    cases x.isNaN <;> cases x.isFinite <;> simp
  | null | bool | int | str | arr | obj => simp [sight]

theorem sightAt_fill (position : Position) (h : ∀ steps, v.sightAt steps = w.sightAt steps)
    (steps : List Step) : (position.fill v).sightAt steps = (position.fill w).sightAt steps := by
  induction position generalizing steps with
  | here => exact h steps
  | item before inside after ih =>
    cases steps with
    | nil => rfl
    | cons step rest =>
      rw [sightAt_cons, sightAt_cons]
      cases step with
      | key name => rfl
      | index n =>
        simp only [Position.fill, part?]
        rcases Nat.lt_trichotomy n before.length with hn | rfl | hn
        · rw [List.getElem?_append_left hn, List.getElem?_append_left hn]
        · simpa using ih rest
        · obtain ⟨m, hm⟩ : ∃ m, n - before.length = m + 1 := ⟨n - before.length - 1, by omega⟩
          rw [List.getElem?_append_right hn.le, List.getElem?_append_right hn.le, hm]
          rfl
  | field before key inside after ih =>
    cases steps with
    | nil => rfl
    | cons step rest =>
      rw [sightAt_cons, sightAt_cons]
      cases step with
      | index n => rfl
      | key name =>
        simp only [Position.fill, part?, Fields.get?_append, Fields.get?_cons]
        cases Fields.get? before name with
        | some x => rfl
        | none =>
          by_cases hname : key = name
          · simpa [hname] using ih rest
          · simp [hname]

theorem IsComparable.of_sights (h : v.IsComparable) (hw : w.hasDistinctKeys = true)
    (hsights : ∀ steps, v.sightAt steps = w.sightAt steps) : w.IsComparable := by
  refine ⟨hw, fun steps x hx => Bool.eq_false_iff.2 fun hnan => ?_⟩
  have hsight : v.sightAt steps = some (.number .undefined) := by
    rw [hsights, sightAt, hx, Option.map_some, sight_eq_undefined_iff.2 ⟨x, rfl, hnan⟩]
  obtain ⟨y, hy, hundefined⟩ := Option.map_eq_some_iff.1 hsight
  obtain ⟨z, rfl, hz⟩ := sight_eq_undefined_iff.1 hundefined
  rw [h.numbers steps z hy] at hz
  cases hz

/-- Inside of a list or an object, a truth value is taken for its number. -/
theorem strictEquals_fill_bool {position : Position} (hposition : position ≠ .here) (b : Bool)
    (h : (position.fill (.bool b)).IsComparable) :
    (position.fill (.bool b)).strictEquals (position.fill (.int (if b then 1 else 0))) = true := by
  have hsights : ∀ steps, (position.fill (.bool b)).sightAt steps =
      (position.fill (.int (if b then 1 else 0))).sightAt steps := by
    refine sightAt_fill position fun steps => ?_
    cases steps <;> rfl
  have hdistinct : (position.fill (.int (if b then 1 else 0))).hasDistinctKeys = true :=
    hereditary_hasDistinctKeys.fill position h.distinct rfl
  rw [strictEquals_iff h (h.of_sights hdistinct hsights)]
  refine ⟨?_, hsights⟩
  cases position with
  | here => exact absurd rfl hposition
  | item | field => rfl

def isNumber : Json → Bool
  | .int _ | .float _ => true
  | _ => false

/-- At the end of the steps the one holds the truth value and the other the number. -/
def MixedAt (v w : Json) (steps : List Step) (b : Bool) (n : Json) : Prop :=
  n.isNumber = true ∧ v.inside? steps = some (.bool b) ∧ w.inside? steps = some n

/-- Equal values have a truth value and a number at one position only below the top, and then the
number is the one for which the truth value is taken. -/
theorem MixedAt.of_strictEquals {steps : List Step} {b : Bool} {n : Json}
    (hmixed : MixedAt v w steps b n) (hv : v.IsComparable) (hw : w.IsComparable)
    (h : v.strictEquals w = true) : steps ≠ [] ∧ n.sight = (Json.bool b).sight := by
  obtain ⟨hnumber, hbool, hn⟩ := hmixed
  obtain ⟨hkind, hsights⟩ := (strictEquals_iff hv hw).1 h
  constructor
  · rintro rfl
    rw [inside?, Option.some.injEq] at hbool hn
    rw [hbool, hn] at hkind
    cases n with
    | bool => cases hnumber
    | null | int | float | str | arr | obj => cases hkind
  · have hsight := hsights steps
    rw [sightAt, sightAt, hbool, hn] at hsight
    exact (Option.some.inj hsight).symm

end Json

end FlexForm
