import FlexForm.Proofs.Json.Reading

/-! # Sizes of values

The size of a value counts its fields and the characters of its texts. What a text holds is no
larger than the text: each field in it takes a colon, and each character of a text in it takes a
character.

* `size`: the size of a value.
* `size_merge_le`: a merged value is no larger than the two together.
* `size_readMaybe_le`: a value that is read from a text is no larger than the text.
-/

namespace FlexForm.Json
set_option autoImplicit false

mutual

/-- How many fields a value has at all depths, with the characters of its texts. -/
def size : Json → ℕ
  | .arr items => itemsSize items
  | .obj fields => fieldsSize fields
  | .str s => s.length
  | .null | .bool _ | .int _ | .float _ => 0

def itemsSize : List Json → ℕ
  | [] => 0
  | v :: rest => size v + itemsSize rest

def fieldsSize : List (String × Json) → ℕ
  | [] => 0
  | (_, v) :: rest => size v + 1 + fieldsSize rest

end

/-! ## Fields -/

section
variable (fields : List (String × Json)) (key : String)

theorem fieldsSize_insert_le (v : Json) :
    fieldsSize (Fields.insert fields key v) ≤ fieldsSize fields + size v + 1 := by
  induction fields with
  | nil => simp [Fields.insert, fieldsSize]
  | cons f rest ih =>
    obtain ⟨k, w⟩ := f
    rw [Fields.insert]
    split
    · simp only [fieldsSize]
      omega
    · simp only [fieldsSize]
      omega

theorem fieldsSize_insert_of_get? {old : Json} (hold : Fields.get? fields key = some old)
    (v : Json) :
    fieldsSize (Fields.insert fields key v) + size old = fieldsSize fields + size v := by
  induction fields with
  | nil => cases hold
  | cons f rest ih =>
    obtain ⟨k, w⟩ := f
    rw [Fields.get?_cons] at hold
    rw [Fields.insert]
    split at hold
    · rename_i hk
      cases hold
      rw [if_pos hk]
      simp only [fieldsSize]
      omega
    · rename_i hk
      have hrest := ih hold
      rw [if_neg hk]
      simp only [fieldsSize]
      omega

theorem fieldsSize_erase_le : fieldsSize (Fields.erase fields key) ≤ fieldsSize fields := by
  induction fields with
  | nil => exact le_rfl
  | cons f rest ih =>
    obtain ⟨k, w⟩ := f
    rw [Fields.erase_cons, fieldsSize]
    split
    · omega
    · rw [fieldsSize]
      omega

theorem fieldsSize_erase_lt {v : Json} (h : Fields.get? fields key = some v) :
    fieldsSize (Fields.erase fields key) + size v < fieldsSize fields := by
  induction fields with
  | nil => cases h
  | cons f rest ih =>
    obtain ⟨k, w⟩ := f
    have hle := fieldsSize_erase_le rest key
    rw [Fields.get?_cons] at h
    rw [Fields.erase_cons]
    by_cases hk : k = key
    · rw [if_pos hk] at h ⊢
      cases h
      rw [fieldsSize]
      omega
    · rw [if_neg hk] at h ⊢
      have hrest := ih h
      rw [fieldsSize, fieldsSize]
      omega

end

/-! ## Merging -/

mutual

theorem size_merge_le (base patch : Json) : size (merge base patch) ≤ size base + size patch := by
  match patch with
  | .obj more =>
    cases base with
    | obj fields => exact fieldsSize_mergeFields_le fields more
    | null | bool | int | float | str | arr => exact Nat.le_add_left _ _
  | .null | .bool _ | .int _ | .float _ | .str _ | .arr _ => exact Nat.le_add_left _ _

theorem fieldsSize_mergeFields_le (fields more : List (String × Json)) :
    fieldsSize (mergeFields fields more) ≤ fieldsSize fields + fieldsSize more := by
  match more with
  | [] => exact le_rfl
  | (key, v) :: rest =>
    rw [mergeFields, fieldsSize]
    cases hold : Fields.get? fields key with
    | none =>
      have hinsert := fieldsSize_insert_le fields key v
      have hrest := fieldsSize_mergeFields_le (Fields.insert fields key v) rest
      simp only
      omega
    | some old =>
      have hmerge := size_merge_le old v
      have hinsert := fieldsSize_insert_of_get? fields key hold (merge old v)
      have hrest := fieldsSize_mergeFields_le (Fields.insert fields key (merge old v)) rest
      simp only
      omega

end

/-! ## Strings and numbers -/

section
variable {s rest : List Char}

theorem length_joinPairs_le (units : List ℕ) : (joinPairs units).length ≤ units.length := by
  fun_induction joinPairs units with
  | case1 => exact le_rfl
  | case2 => exact le_rfl
  | case3 =>
    simp only [List.length_cons]
    omega
  | case4 =>
    simp only [List.length_cons] at *
    omega

theorem length_readUnits {units : List ℕ} (h : readUnits s = .ok (units, rest)) :
    units.length + rest.length < s.length := by
  fun_induction readUnits s generalizing units with
  | case2 more =>
    cases h
    simp
  | case4 _ _ _ _ more _ _ _ ih | case8 _ more _ _ _ _ ih | case11 _ more _ _ _ _ _ ih =>
    obtain ⟨others, hread, rfl⟩ := exists_of_consTo h
    have hmore := ih hread
    simp only [List.length_cons]
    omega
  | _ => cases h

theorem length_readQuoted {text : String} (h : readQuoted s = .ok (text, rest)) :
    text.length + rest.length < s.length := by
  unfold readQuoted at h
  split at h
  next units more hread =>
    cases h
    have hunits := length_readUnits hread
    have hpairs := length_joinPairs_le units
    rw [String.length_ofList]
    omega
  next => cases h
  next => cases h

theorem length_readFraction_le (s : List Char) : (readFraction s).2.length ≤ s.length := by
  unfold readFraction
  split
  next c more =>
    split
    · have hdrop := (List.dropWhile_suffix (l := c :: more) Char.isDigit).length_le
      simp only [List.length_cons] at hdrop ⊢
      omega
    · exact le_rfl
  next => exact le_rfl

theorem length_readExponent_le (s : List Char) : (readExponent s).2.length ≤ s.length := by
  unfold readExponent
  split
  next e more =>
    split
    · split
      next negative digits hsign =>
        have hdigits : digits.length ≤ more.length := by
          split at hsign <;> cases hsign <;> simp
        have hdrop := (List.dropWhile_suffix (l := digits) Char.isDigit).length_le
        dsimp only
        split
        · exact le_rfl
        · simp only [List.length_cons]
          omega
    · exact le_rfl
  next => exact le_rfl

theorem length_wholeDigits_le {d : Char} {more digits behind : List Char}
    (h : wholeDigits d more = (digits, behind)) : behind.length ≤ more.length + 1 := by
  rw [← (Prod.mk.inj h).2]
  split
  · exact Nat.le_succ _
  · exact (List.dropWhile_suffix Char.isDigit).length_le

theorem length_readNumber_le {v : Json} (h : readNumber s = .ok (v, rest)) :
    rest.length ≤ s.length := by
  have hparts {negative : Bool} {d : Char} {more digits behind fraction last : List Char}
      {exponent : Option ℤ} (hsign : numberSign s = (negative, d :: more))
      (hdigits : wholeDigits d more = (digits, behind))
      (hfraction : readFraction behind = (fraction, last))
      (hexponent : readExponent last = (exponent, rest)) : rest.length ≤ s.length := by
    have hwhole := length_wholeDigits_le hdigits
    have hlast := length_readFraction_le behind
    have hrest := length_readExponent_le last
    rw [hfraction] at hlast
    rw [hexponent] at hrest
    rw [append_of_numberSign hsign, List.length_append, List.length_cons]
    dsimp only at hlast hrest
    omega
  cases readNumber_eq_ok_iff.1 h with
  | int hsign _ hdigits hfraction hexponent => exact hparts hsign hdigits hfraction hexponent
  | float hsign _ hdigits hfraction hexponent => exact hparts hsign hdigits hfraction hexponent

theorem length_readScalar_le {special : Bool} {v : Json}
    (h : readScalar special s = .ok (v, rest)) : rest.length ≤ s.length := by
  rcases readScalar_eq_ok_iff.1 h with ⟨word, -, rfl⟩ | hnumber
  · rw [List.length_append]
    exact Nat.le_add_left _ _
  · exact length_readNumber_le hnumber

theorem size_of_readScalar {special : Bool} {v : Json}
    (h : readScalar special s = .ok (v, rest)) : size v = 0 := by
  rcases readScalar_cases h with rfl | ⟨b, rfl⟩ | ⟨n, rfl⟩ | ⟨x, rfl, -⟩ <;> rfl

end

/-! ## Values -/

/-- What the three readers give with so much fuel is no larger than the text that they consume. -/
structure ReadsWithin (special : Bool) (fuel : ℕ) : Prop where
  value {s rest : List Char} {v : Json} : readValue special fuel s = .ok (v, rest) →
    size v + rest.length ≤ s.length
  items {s rest : List Char} {items : List Json} : readItems special fuel s = .ok (items, rest) →
    itemsSize items + rest.length ≤ s.length
  fields {s rest : List Char} {before fields : List (String × Json)} :
    readFields special fuel before s = .ok (fields, rest) →
    fieldsSize fields + rest.length ≤ fieldsSize before + s.length

namespace ReadsWithin

variable {special : Bool} {fuel : ℕ} {s rest : List Char}

theorem length_of_skipSpace {c : Char} {more : List Char} (h : skipSpace s = c :: more) :
    more.length < s.length := by
  have hle := length_skipSpace_le s
  rw [h, List.length_cons] at hle
  omega

theorem length_skipSpace_of_skipSpace {c : Char} {more : List Char} (h : skipSpace s = c :: more) :
    (skipSpace more).length < s.length :=
  (length_skipSpace_le more).trans_lt (length_of_skipSpace h)

theorem value_succ {v : Json} (hfuel : ReadsWithin special fuel)
    (h : readValue special (fuel + 1) s = .ok (v, rest)) : size v + rest.length ≤ s.length := by
  cases readValue_eq_ok_iff.1 h with
  | text hread =>
    have hquoted := length_readQuoted hread
    simp only [size, List.length_cons]
    omega
  | noItems hclose =>
    have hrest := length_of_skipSpace hclose
    simp only [size, itemsSize, List.length_cons]
    omega
  | @items inside _ _ _ hread =>
    have hitems := hfuel.items hread
    have hspace := length_skipSpace_le inside
    simp only [size, List.length_cons]
    omega
  | noFields hclose =>
    have hrest := length_of_skipSpace hclose
    simp only [size, fieldsSize, List.length_cons]
    omega
  | @fields inside _ _ _ hread =>
    have hfields := hfuel.fields hread
    have hspace := length_skipSpace_le inside
    simp only [size, fieldsSize, List.length_cons] at hfields ⊢
    omega
  | scalar hread =>
    rw [size_of_readScalar hread, Nat.zero_add]
    exact length_readScalar_le hread

theorem items_succ {items : List Json} (hfuel : ReadsWithin special fuel)
    (h : readItems special (fuel + 1) s = .ok (items, rest)) :
    itemsSize items + rest.length ≤ s.length := by
  cases readItems_eq_ok_iff.1 h with
  | last hitem hclose =>
    have hvalue := hfuel.value hitem
    have hrest := length_of_skipSpace hclose
    simp only [itemsSize]
    omega
  | more hitem hcomma hread =>
    have hvalue := hfuel.value hitem
    have hnext := length_skipSpace_of_skipSpace hcomma
    have hothers := hfuel.items hread
    simp only [itemsSize]
    omega

theorem fields_succ {before fields : List (String × Json)} (hfuel : ReadsWithin special fuel)
    (h : readFields special (fuel + 1) before s = .ok (fields, rest)) :
    fieldsSize fields + rest.length ≤ fieldsSize before + s.length := by
  have hfield {inside behind after last : List Char} {key : String} {v : Json}
      (hkey : readQuoted inside = .ok (key, behind)) (hcolon : skipSpace behind = ':' :: after)
      (hvalue : readValue special fuel (skipSpace after) = .ok (v, last)) :
      fieldsSize (Fields.insert before key v) + last.length ≤
        fieldsSize before + inside.length := by
    have hquoted := length_readQuoted hkey
    have hafter := length_skipSpace_of_skipSpace hcolon
    have hsize := hfuel.value hvalue
    have hinsert := fieldsSize_insert_le before key v
    omega
  cases readFields_eq_ok_iff.1 h with
  | last hkey hcolon hvalue hclose =>
    have hadded := hfield hkey hcolon hvalue
    have hrest := length_of_skipSpace hclose
    simp only [List.length_cons]
    omega
  | more hkey hcolon hvalue hcomma hread =>
    have hadded := hfield hkey hcolon hvalue
    have hnext := length_skipSpace_of_skipSpace hcomma
    have hfields := hfuel.fields hread
    simp only [List.length_cons]
    omega

end ReadsWithin

theorem readsWithin (special : Bool) (fuel : ℕ) : ReadsWithin special fuel := by
  induction fuel with
  | zero =>
    refine ⟨fun h => ?_, fun h => ?_, fun h => ?_⟩
    · simp [readValue] at h
    · simp [readItems] at h
    · simp [readFields] at h
  | succ fuel ih => exact ⟨ih.value_succ, ih.items_succ, ih.fields_succ⟩

theorem size_le_of_readChars {special : Bool} {s : List Char} {v : Json}
    (h : readChars special s = .ok v) : size v ≤ s.length := by
  obtain ⟨-, rest, hread, -⟩ := readChars_eq_ok_iff.1 h
  have hvalue := (readsWithin special _).value hread
  have hspace := length_skipSpace_le s
  omega

/-- What a text holds is no larger than the text. -/
theorem size_readMaybe_le (v : Json) : size (readMaybe v) ≤ size v := by
  cases v with
  | str s =>
    cases hread : readChars true s.toList with
    | ok w =>
      simp only [readMaybe, hread]
      exact (size_le_of_readChars hread).trans_eq String.length_toList
    | error fault => simp only [readMaybe, hread, le_rfl]
  | null | bool | int | float | arr | obj => exact le_rfl

end FlexForm.Json
