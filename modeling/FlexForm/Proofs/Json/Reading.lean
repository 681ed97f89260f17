import FlexForm.Proofs.Json.Leaves
import FlexForm.Proofs.Number.Rounding

/-! # What is read from texts

The readers build values from strings, scalars, items and fields only, so what these steps preserve
holds of every value that is read.

* `ReadInvariant`: what the steps of the readers preserve; `of_readChars`: it holds of what is read.
* `hasDistinctKeys_of_readChars`: no object that is read has a key twice.
* `isNumber_of_read`: a strict reading gives no NaN.
-/

namespace FlexForm
set_option autoImplicit false

namespace Json

/-! ## Invariants of the readers -/

section
variable {special : Bool} {V : Json → Prop} {F : List (String × Json) → Prop}

/-- What each step of the readers preserves, for values and for the fields read so far. -/
structure ReadInvariant (special : Bool) (V : Json → Prop) (F : List (String × Json) → Prop) :
    Prop where
  str (s : String) : V (.str s)
  scalar {s rest : List Char} {v : Json} : readScalar special s = .ok (v, rest) → V v
  arr {items : List Json} : (∀ v ∈ items, V v) → V (.arr items)
  obj {fields : List (String × Json)} : F fields → V (.obj fields)
  nil : F []
  insert {fields : List (String × Json)} {key : String} {v : Json} : F fields → V v →
    F (Fields.insert fields key v)

/-- What the three readers give with so much fuel has the invariant. -/
structure ReadersKeep (special : Bool) (V : Json → Prop) (F : List (String × Json) → Prop)
    (fuel : ℕ) : Prop where
  value {s rest : List Char} {v : Json} : readValue special fuel s = .ok (v, rest) → V v
  items {s rest : List Char} {items : List Json} : readItems special fuel s = .ok (items, rest) →
    ∀ v ∈ items, V v
  fields {s rest : List Char} {before fields : List (String × Json)} :
    readFields special fuel before s = .ok (fields, rest) → F before → F fields

namespace ReadersKeep

variable {fuel : ℕ} {s rest : List Char}

theorem value_succ {v : Json} (hinv : ReadInvariant special V F)
    (hfuel : ReadersKeep special V F fuel)
    (h : readValue special (fuel + 1) s = .ok (v, rest)) : V v := by
  cases readValue_eq_ok_iff.1 h with
  | text => exact hinv.str _
  | noItems => exact hinv.arr nofun
  | items _ hread => exact hinv.arr (hfuel.items hread)
  | noFields => exact hinv.obj hinv.nil
  | fields _ hread => exact hinv.obj (hfuel.fields hread hinv.nil)
  | scalar hread => exact hinv.scalar hread

theorem items_succ {items : List Json} (hfuel : ReadersKeep special V F fuel)
    (h : readItems special (fuel + 1) s = .ok (items, rest)) : ∀ v ∈ items, V v := by
  cases readItems_eq_ok_iff.1 h with
  | last hitem => exact List.forall_mem_singleton.2 (hfuel.value hitem)
  | more hitem _ hread => exact List.forall_mem_cons.2 ⟨hfuel.value hitem, hfuel.items hread⟩

theorem fields_succ {before fields : List (String × Json)} (hinv : ReadInvariant special V F)
    (hfuel : ReadersKeep special V F fuel)
    (h : readFields special (fuel + 1) before s = .ok (fields, rest)) (hbefore : F before) :
    F fields := by
  cases readFields_eq_ok_iff.1 h with
  | last _ _ hvalue => exact hinv.insert hbefore (hfuel.value hvalue)
  | more _ _ hvalue _ hread =>
    exact hfuel.fields hread (hinv.insert hbefore (hfuel.value hvalue))

end ReadersKeep

theorem ReadInvariant.readersKeep (hinv : ReadInvariant special V F) (fuel : ℕ) :
    ReadersKeep special V F fuel := by
  induction fuel with
  | zero =>
    refine ⟨fun h => ?_, fun h => ?_, fun h => ?_⟩
    · simp [readValue] at h
    · simp [readItems] at h
    · simp [readFields] at h
  | succ fuel ih => exact ⟨ih.value_succ hinv, ih.items_succ, ih.fields_succ hinv⟩

/-- What the readers preserve holds of a value that is read. -/
theorem ReadInvariant.of_readChars (hinv : ReadInvariant special V F) {s : List Char} {v : Json}
    (h : readChars special s = .ok v) : V v := by
  obtain ⟨-, _, hread, -⟩ := readChars_eq_ok_iff.1 h
  exact (hinv.readersKeep _).value hread

end

/-! ## Scalars -/

theorem readNumber_cases {s rest : List Char} {v : Json} (h : readNumber s = .ok (v, rest)) :
    (∃ n, v = .int n) ∨
      ∃ negative digits exponent, v = .float (Binary64.ofDecimal negative digits exponent) := by
  cases readNumber_eq_ok_iff.1 h with
  | int => exact .inl ⟨_, rfl⟩
  | float => exact .inr ⟨_, _, _, rfl⟩

theorem readScalar_cases {special : Bool} {s rest : List Char} {v : Json}
    (h : readScalar special s = .ok (v, rest)) :
    v = .null ∨ (∃ b, v = .bool b) ∨ (∃ n, v = .int n) ∨
      ∃ x, v = .float x ∧ (special = false → x.isNaN = false) := by
  rcases readScalar_eq_ok_iff.1 h with ⟨word, hname, -⟩ | hnumber
  · have hnames : ∀ p ∈ scalarNames special, p.2 = .null ∨ (∃ b, p.2 = .bool b) ∨
        (∃ n, p.2 = .int n) ∨ ∃ x, p.2 = .float x ∧ (special = false → x.isNaN = false) := by
      cases special <;> simp [scalarNames]
    exact hnames _ hname
  · rcases readNumber_cases hnumber with ⟨n, rfl⟩ | ⟨negative, digits, exponent, rfl⟩
    · exact .inr (.inr (.inl ⟨n, rfl⟩))
    · exact .inr (.inr (.inr ⟨_, rfl, fun _ => Binary64.isNaN_ofDecimal negative digits exponent⟩))

/-! ## Keys -/

theorem fieldsDistinct_insert {fields : List (String × Json)} {key : String} {v : Json}
    (h : fieldsDistinct fields = true) (hv : hasDistinctKeys v = true) :
    fieldsDistinct (Fields.insert fields key v) = true := by
  induction fields with
  | nil => simp [Fields.insert, fieldsDistinct, hv, Fields.has]
  | cons f rest ih =>
    obtain ⟨l, w⟩ := f
    simp only [fieldsDistinct, Bool.and_eq_true, Bool.not_eq_true'] at h
    obtain ⟨⟨hl, hw⟩, hrest⟩ := h
    rw [Fields.insert]
    split
    next => simp [fieldsDistinct, hl, hv, hrest]
    next hne =>
      have hkept : Fields.has (Fields.insert rest key v) l = false := by
        rw [Fields.has, Fields.get?_insert_of_ne _ _ (Ne.symm hne)]
        exact hl
      simp [fieldsDistinct, hkept, hw, ih hrest]

theorem readInvariant_hasDistinctKeys (special : Bool) : ReadInvariant special
    (fun v => hasDistinctKeys v = true) (fun fields => fieldsDistinct fields = true) where
  str _ := rfl
  scalar h := by
    rcases readScalar_cases h with rfl | ⟨b, rfl⟩ | ⟨n, rfl⟩ | ⟨x, rfl, -⟩ <;> rfl
  arr {items} h := by
    rw [hasDistinctKeys]
    induction items with
    | nil => rfl
    | cons v rest ih =>
      rw [List.forall_mem_cons] at h
      rw [haveDistinctKeys, h.1, ih h.2, Bool.and_self]
  obj h := h
  nil := rfl
  insert h hv := fieldsDistinct_insert h hv

/-- No object that is read has a key twice. -/
theorem hasDistinctKeys_of_readChars {special : Bool} {s : List Char} {v : Json}
    (h : readChars special s = .ok v) : hasDistinctKeys v = true :=
  (readInvariant_hasDistinctKeys special).of_readChars h

/-! ## Strict reading -/

/-- Whether a leaf is no NaN. -/
def IsNumber (leaf : Option String × Json) : Prop := ∀ x, leaf.2 = .float x → x.isNaN = false

theorem readInvariant_isNumber : ReadInvariant false
    (fun v => ∀ key, ∀ leaf ∈ leaves key v, IsNumber leaf)
    (fun fields => ∀ leaf ∈ fieldLeaves fields, IsNumber leaf) where
  str s := by
    intro key leaf hleaf x hx
    rw [leaves, List.mem_singleton] at hleaf
    subst hleaf
    cases hx
  scalar h := by
    intro key leaf hleaf x hx
    rcases readScalar_cases h with rfl | ⟨b, rfl⟩ | ⟨n, rfl⟩ | ⟨y, rfl, hy⟩
    all_goals
      rw [leaves, List.mem_singleton] at hleaf
      subst hleaf
      cases hx
    exact hy rfl
  arr {items} h := by
    intro key
    rw [leaves]
    induction items with
    | nil => exact fun leaf hleaf => by cases hleaf
    | cons v rest ih =>
      rw [List.forall_mem_cons] at h
      rw [itemLeaves, List.forall_mem_append]
      exact ⟨h.1 none, ih h.2⟩
  obj h _ := h
  nil leaf hleaf := by cases hleaf
  insert h hv := by
    intro leaf hleaf
    rcases mem_fieldLeaves_insert hleaf with hleaf | hleaf
    · exact hv _ leaf hleaf
    · exact h leaf hleaf

/-- A strict reading gives no NaN at any depth. -/
theorem isNumber_of_read {text : String} {v : Json} (h : read false text = .ok v) :
    ∀ leaf ∈ leaves none v, IsNumber leaf := by
  unfold read at h
  split at h
  next w hread =>
    cases h
    exact readInvariant_isNumber.of_readChars hread none
  next => cases h

end Json

end FlexForm
