import FlexForm.Json.Reader
import FlexForm.Proofs.Steps
import Mathlib.Tactic

/-! # Steps of the readers

What the readers of JSON give, one call at a time: each constructor is one way through a reader,
with what its inner calls give. The readers have a result exactly if it is reached on such a way,
so whatever they preserve is shown by cases on the ways, and no proof unfolds the readers again.

* `readScalar_eq_ok_iff`: a scalar is one of `scalarNames` or a number.
* `readValue_eq_ok_iff`, `readItems_eq_ok_iff`, `readFields_eq_ok_iff`: one step with fuel.
* `readChars_eq_ok_iff`: a whole text.
-/

namespace FlexForm.Json
set_option autoImplicit false

section
variable {special : Bool} {s rest : List Char} {v : Json}

/-! ## Numbers -/

/-- Whether a number is negative, and what follows its sign. -/
def numberSign : List Char → Bool × List Char
  | '-' :: rest => (true, rest)
  | rest => (false, rest)

theorem numberSign_of_head (hminus : s.head? ≠ some '-') : numberSign s = (false, s) := by
  unfold numberSign
  split
  · exact absurd rfl hminus
  · rfl

/-- The minus sign of a negative number. -/
def signChars (negative : Bool) : List Char := if negative then ['-'] else []

theorem numberSign_signChars (negative : Bool) (hminus : s.head? ≠ some '-') :
    numberSign (signChars negative ++ s) = (negative, s) := by
  cases negative with
  | true => rfl
  | false => exact numberSign_of_head hminus

theorem append_of_numberSign {negative : Bool} {unsigned : List Char}
    (h : numberSign s = (negative, unsigned)) : s = signChars negative ++ unsigned := by
  unfold numberSign at h
  split at h <;> cases h <;> rfl

/-- The digits before the point, and what follows them. -/
def wholeDigits (d : Char) (more : List Char) : List Char × List Char :=
  (if d == '0' then ['0'] else (d :: more).takeWhile Char.isDigit,
    if d == '0' then more else (d :: more).dropWhile Char.isDigit)

/-- The ways on which a number is read. -/
inductive NumberStep : List Char → Json → List Char → Prop where
  | int {s more digits behind last rest : List Char} {negative : Bool} {d : Char}
      (hsign : numberSign s = (negative, d :: more)) (hdigit : d.isDigit = true)
      (hdigits : wholeDigits d more = (digits, behind))
      (hfraction : readFraction behind = ([], last)) (hexponent : readExponent last = (none, rest))
      (hfew : digits.length ≤ maxDigits) :
      NumberStep s (.int (if negative then -(decimalOf digits : ℤ) else decimalOf digits)) rest
  | float {s more digits behind fraction last rest : List Char} {negative : Bool} {d : Char}
      {exponent : Option ℤ}
      (hsign : numberSign s = (negative, d :: more)) (hdigit : d.isDigit = true)
      (hdigits : wholeDigits d more = (digits, behind))
      (hfraction : readFraction behind = (fraction, last))
      (hexponent : readExponent last = (exponent, rest))
      (hbroken : (fraction.isEmpty && exponent.isNone) = false) :
      NumberStep s (.float (Binary64.ofDecimal negative (decimalOf (digits ++ fraction))
        (exponent.getD 0 - fraction.length))) rest

/-- What stands behind the sign and the whole digits decides about the kind of number. -/
theorem readNumber_of_sign {negative : Bool} {d : Char}
    {more digits behind fraction last : List Char} {exponent : Option ℤ}
    (hsign : numberSign s = (negative, d :: more)) (hdigit : d.isDigit = true)
    (hdigits : wholeDigits d more = (digits, behind))
    (hfraction : readFraction behind = (fraction, last))
    (hexponent : readExponent last = (exponent, rest)) :
    readNumber s =
      if fraction.isEmpty && exponent.isNone then
        if digits.length > maxDigits then .error ⟨.digits digits.length, s.length⟩
        else .ok (.int (if negative then -(decimalOf digits : ℤ) else decimalOf digits), rest)
      else
        .ok (.float (Binary64.ofDecimal negative (decimalOf (digits ++ fraction))
          (exponent.getD 0 - fraction.length)), rest) := by
  obtain ⟨rfl, rfl⟩ := Prod.mk.inj hdigits
  unfold readNumber
  split
  next _ _ hsign' =>
    cases hsign'.symm.trans hsign
    simp only [hdigit, Bool.not_true, Bool.false_eq_true, if_false, hfraction, hexponent]

theorem exists_numberSign (h : readNumber s = .ok (v, rest)) :
    ∃ negative d more, numberSign s = (negative, d :: more) ∧ d.isDigit = true := by
  unfold readNumber at h
  split at h
  next negative unsigned hsign =>
    split at h
    next => cases h
    next d more =>
      split at h
      next => cases h
      next hdigit => exact ⟨negative, d, more, hsign, by simpa using hdigit⟩

theorem readNumber_eq_ok_iff : readNumber s = .ok (v, rest) ↔ NumberStep s v rest := by
  constructor
  · intro h
    obtain ⟨negative, d, more, hsign, hdigit⟩ := exists_numberSign h
    rcases hdigits : wholeDigits d more with ⟨digits, behind⟩
    rcases hfraction : readFraction behind with ⟨fraction, last⟩
    rcases hexponent : readExponent last with ⟨exponent, rest⟩
    rw [readNumber_of_sign hsign hdigit hdigits hfraction hexponent] at h
    split at h
    next hwhole =>
      rw [Bool.and_eq_true, List.isEmpty_iff, Option.isNone_iff_eq_none] at hwhole
      obtain ⟨rfl, rfl⟩ := hwhole
      split at h
      next => cases h
      next hfew =>
        cases h
        exact .int hsign hdigit hdigits hfraction hexponent (not_lt.1 hfew)
    next hbroken =>
      cases h
      exact .float hsign hdigit hdigits hfraction hexponent (Bool.eq_false_of_not_eq_true hbroken)
  · intro h
    cases h with
    | int hsign hdigit hdigits hfraction hexponent hfew =>
      rw [readNumber_of_sign hsign hdigit hdigits hfraction hexponent]
      exact (if_pos rfl).trans (if_neg (not_lt.2 hfew))
    | float hsign hdigit hdigits hfraction hexponent hbroken =>
      rw [readNumber_of_sign hsign hdigit hdigits hfraction hexponent, hbroken]
      rfl

/-- What is read as a number begins with a digit, perhaps behind a sign. -/
theorem readNumber_shape (h : readNumber s = .ok (v, rest)) :
    ∃ d more, d.isDigit = true ∧ (s = d :: more ∨ s = '-' :: d :: more) := by
  obtain ⟨negative, d, more, hsign, hdigit⟩ := exists_numberSign h
  rw [append_of_numberSign hsign]
  cases negative with
  | true => exact ⟨d, more, hdigit, .inr rfl⟩
  | false => exact ⟨d, more, hdigit, .inl rfl⟩

/-! ## Scalars -/

def digits : List Char := ['0', '1', '2', '3', '4', '5', '6', '7', '8', '9']

theorem mem_digits {c : Char} (h : c.isDigit = true) : c ∈ digits := by
  have hrange : 48 ≤ c.toNat ∧ c.toNat ≤ 57 := by
    simp only [Char.isDigit, Bool.and_eq_true, decide_eq_true_eq] at h
    exact h
  obtain ⟨hlow, hhigh⟩ := hrange
  rw [← Char.ofNat_toNat c]
  interval_cases c.toNat <;> decide

/-- No name begins with a digit, nor with a minus sign and a digit. -/
theorem readScalar_of_isDigit (special : Bool) {d : Char} (more : List Char)
    (h : d.isDigit = true) : readScalar special (d :: more) = readNumber (d :: more) ∧
      readScalar special ('-' :: d :: more) = readNumber ('-' :: d :: more) := by
  have hmem := mem_digits h
  simp only [digits, List.mem_cons, List.not_mem_nil, or_false] at hmem
  rcases hmem with rfl | rfl | rfl | rfl | rfl | rfl | rfl | rfl | rfl | rfl <;> exact ⟨rfl, rfl⟩

/-- The names that are read as scalars. -/
def scalarNames (special : Bool) : List (List Char × Json) :=
  [(['n', 'u', 'l', 'l'], .null), (['t', 'r', 'u', 'e'], .bool true),
    (['f', 'a', 'l', 's', 'e'], .bool false)] ++
  if special then
    [(['N', 'a', 'N'], .float Binary64.nan),
      (['I', 'n', 'f', 'i', 'n', 'i', 't', 'y'], .float (Binary64.infinity false)),
      (['-', 'I', 'n', 'f', 'i', 'n', 'i', 't', 'y'], .float (Binary64.infinity true))]
  else []

theorem readScalar_of_mem_names {word : List Char} (h : (word, v) ∈ scalarNames special)
    (rest : List Char) : readScalar special (word ++ rest) = .ok (v, rest) := by
  have hnames : ∀ p ∈ scalarNames special,
      readScalar special (p.1 ++ rest) = .ok (p.2, rest) := by
    cases special <;> simp [scalarNames, readScalar]
  exact hnames _ h

theorem readScalar_of_readNumber (h : readNumber s = .ok (v, rest)) :
    readScalar special s = .ok (v, rest) := by
  obtain ⟨d, more, hdigit, rfl | rfl⟩ := readNumber_shape h
  · rw [(readScalar_of_isDigit special more hdigit).1, h]
  · rw [(readScalar_of_isDigit special more hdigit).2, h]

theorem readScalar_eq_ok_iff : readScalar special s = .ok (v, rest) ↔
    (∃ word, (word, v) ∈ scalarNames special ∧ s = word ++ rest) ∨
      readNumber s = .ok (v, rest) := by
  constructor
  · intro h
    unfold readScalar at h
    dsimp only at h
    split at h
    case h_7 => exact .inr h
    case h_1 =>
      cases h
      exact .inl ⟨['n', 'u', 'l', 'l'], by simp [scalarNames], rfl⟩
    case h_2 =>
      cases h
      exact .inl ⟨['t', 'r', 'u', 'e'], by simp [scalarNames], rfl⟩
    case h_3 =>
      cases h
      exact .inl ⟨['f', 'a', 'l', 's', 'e'], by simp [scalarNames], rfl⟩
    case h_4 =>
      cases special with
      | false => cases h
      | true =>
        cases h
        exact .inl ⟨['N', 'a', 'N'], by simp [scalarNames], rfl⟩
    case h_5 =>
      cases special with
      | false => cases h
      | true =>
        cases h
        exact .inl ⟨['I', 'n', 'f', 'i', 'n', 'i', 't', 'y'], by simp [scalarNames], rfl⟩
    case h_6 =>
      cases special with
      | false => cases h
      | true =>
        cases h
        exact .inl ⟨['-', 'I', 'n', 'f', 'i', 'n', 'i', 't', 'y'], by simp [scalarNames], rfl⟩
  · rintro (⟨word, hname, rfl⟩ | h)
    · exact readScalar_of_mem_names hname rest
    · exact readScalar_of_readNumber h

/-! ## Values -/

/-- The ways on which a value is read. -/
inductive ValueStep (special : Bool) (fuel : ℕ) : List Char → Json → List Char → Prop where
  | text {inside rest : List Char} {t : String} (hread : readQuoted inside = .ok (t, rest)) :
      ValueStep special fuel ('"' :: inside) (.str t) rest
  | noItems {inside rest : List Char} (hclose : skipSpace inside = ']' :: rest) :
      ValueStep special fuel ('[' :: inside) (.arr []) rest
  | items {inside rest : List Char} {items : List Json}
      (hopen : ∀ more, skipSpace inside ≠ ']' :: more)
      (hread : readItems special fuel (skipSpace inside) = .ok (items, rest)) :
      ValueStep special fuel ('[' :: inside) (.arr items) rest
  | noFields {inside rest : List Char} (hclose : skipSpace inside = '}' :: rest) :
      ValueStep special fuel ('{' :: inside) (.obj []) rest
  | fields {inside rest : List Char} {fields : List (String × Json)}
      (hopen : ∀ more, skipSpace inside ≠ '}' :: more)
      (hread : readFields special fuel [] (skipSpace inside) = .ok (fields, rest)) :
      ValueStep special fuel ('{' :: inside) (.obj fields) rest
  | scalar {s rest : List Char} {v : Json} (hread : readScalar special s = .ok (v, rest)) :
      ValueStep special fuel s v rest

/-- The ways on which the items of a list are read. -/
inductive ItemsStep (special : Bool) (fuel : ℕ) : List Char → List Json → List Char → Prop where
  | last {s behind rest : List Char} {item : Json}
      (hitem : readValue special fuel s = .ok (item, behind))
      (hclose : skipSpace behind = ']' :: rest) : ItemsStep special fuel s [item] rest
  | more {s behind next rest : List Char} {item : Json} {items : List Json}
      (hitem : readValue special fuel s = .ok (item, behind))
      (hcomma : skipSpace behind = ',' :: next)
      (hread : readItems special fuel (skipSpace next) = .ok (items, rest)) :
      ItemsStep special fuel s (item :: items) rest

/-- The ways on which fields are read and added to those before. -/
inductive FieldsStep (special : Bool) (fuel : ℕ) (before : List (String × Json)) :
    List Char → List (String × Json) → List Char → Prop where
  | last {inside behind after last rest : List Char} {key : String} {v : Json}
      (hkey : readQuoted inside = .ok (key, behind)) (hcolon : skipSpace behind = ':' :: after)
      (hvalue : readValue special fuel (skipSpace after) = .ok (v, last))
      (hclose : skipSpace last = '}' :: rest) :
      FieldsStep special fuel before ('"' :: inside) (Fields.insert before key v) rest
  | more {inside behind after last next rest : List Char} {key : String} {v : Json}
      {fields : List (String × Json)}
      (hkey : readQuoted inside = .ok (key, behind)) (hcolon : skipSpace behind = ':' :: after)
      (hvalue : readValue special fuel (skipSpace after) = .ok (v, last))
      (hcomma : skipSpace last = ',' :: next)
      (hread : readFields special fuel (Fields.insert before key v) (skipSpace next) =
        .ok (fields, rest)) :
      FieldsStep special fuel before ('"' :: inside) fields rest

variable {fuel : ℕ}

/-- What is read as a scalar begins neither as a string nor as a container. -/
theorem readValue_of_readScalar (h : readScalar special s = .ok (v, rest)) :
    readValue special (fuel + 1) s = .ok (v, rest) := by
  have hhead : ∀ more, s ≠ '"' :: more ∧ s ≠ '[' :: more ∧ s ≠ '{' :: more := by
    intro more
    refine ⟨?_, ?_, ?_⟩ <;> rintro rfl <;> cases h
  rw [readValue.eq_def]
  split
  next hzero => cases hzero
  next => exact absurd rfl (hhead _).1
  next => exact absurd rfl (hhead _).2.1
  next => exact absurd rfl (hhead _).2.2
  next => exact h

theorem readValue_eq_ok_iff :
    readValue special (fuel + 1) s = .ok (v, rest) ↔ ValueStep special fuel s v rest := by
  constructor
  · intro h
    rw [readValue.eq_def] at h
    split at h
    next hzero => cases hzero
    next =>
      obtain ⟨⟨text, more⟩, hread, h⟩ := exists_of_bind_ok h
      cases h
      exact .text hread
    next hsucc =>
      cases hsucc
      split at h
      next hclose =>
        cases h
        exact .noItems hclose
      next hopen =>
        obtain ⟨⟨items, more⟩, hread, h⟩ := exists_of_bind_ok h
        cases h
        exact .items hopen hread
    next hsucc =>
      cases hsucc
      split at h
      next hclose =>
        cases h
        exact .noFields hclose
      next hopen =>
        obtain ⟨⟨fields, more⟩, hread, h⟩ := exists_of_bind_ok h
        cases h
        exact .fields hopen hread
    next => exact .scalar h
  · intro h
    cases h with
    | text hread =>
      rw [readValue, hread]
      rfl
    | noItems hclose => simp only [readValue, hclose]
    | items hopen hread =>
      rw [readValue]
      split
      next hclose => exact absurd hclose (hopen _)
      next =>
        rw [hread]
        rfl
    | noFields hclose => simp only [readValue, hclose]
    | fields hopen hread =>
      rw [readValue]
      split
      next hclose => exact absurd hclose (hopen _)
      next =>
        rw [hread]
        rfl
    | scalar hread => exact readValue_of_readScalar hread

theorem readItems_eq_ok_iff {items : List Json} :
    readItems special (fuel + 1) s = .ok (items, rest) ↔ ItemsStep special fuel s items rest := by
  constructor
  · intro h
    rw [readItems] at h
    obtain ⟨⟨item, behind⟩, hitem, h⟩ := exists_of_bind_ok h
    simp only at h
    split at h
    next hclose =>
      cases h
      exact .last hitem hclose
    next hcomma =>
      obtain ⟨⟨items, more⟩, hread, h⟩ := exists_of_bind_ok h
      cases h
      exact .more hitem hcomma hread
    next => cases h
  · intro h
    cases h with
    | last hitem hclose =>
      simp only [readItems, hitem, bind, Except.bind, hclose]
      rfl
    | more hitem hcomma hread =>
      simp only [readItems, hitem, bind, Except.bind, hcomma, hread]
      rfl

theorem readFields_eq_ok_iff {before fields : List (String × Json)} :
    readFields special (fuel + 1) before s = .ok (fields, rest) ↔
      FieldsStep special fuel before s fields rest := by
  constructor
  · intro h
    rw [readFields.eq_def] at h
    split at h
    next hzero => cases hzero
    next hsucc =>
      cases hsucc
      obtain ⟨⟨key, behind⟩, hkey, h⟩ := exists_of_bind_ok h
      simp only at h
      split at h
      next hcolon =>
        obtain ⟨⟨value, last⟩, hvalue, h⟩ := exists_of_bind_ok h
        simp only at h
        split at h
        next hclose =>
          cases h
          exact .last hkey hcolon hvalue hclose
        next hcomma => exact .more hkey hcolon hvalue hcomma h
        next => cases h
      next => cases h
    next => cases h
  · intro h
    cases h with
    | last hkey hcolon hvalue hclose =>
      simp only [readFields, hkey, bind, Except.bind, hcolon, hvalue, hclose]
      rfl
    | more hkey hcolon hvalue hcomma hread =>
      simp only [readFields, hkey, bind, Except.bind, hcolon, hvalue, hcomma, hread]

/-! ## Texts -/

theorem readChars_eq_ok_iff : readChars special s = .ok v ↔
    (∀ more, s ≠ '\uFEFF' :: more) ∧
      ∃ rest, readValue special (2 * s.length + 2) (skipSpace s) = .ok (v, rest) ∧
        skipSpace rest = [] := by
  constructor
  · intro h
    unfold readChars at h
    split at h
    next => cases h
    next hmark =>
      obtain ⟨⟨w, rest⟩, hread, h⟩ := exists_of_bind_ok h
      simp only at h
      split at h
      next hend =>
        cases h
        exact ⟨hmark, rest, hread, hend⟩
      next => cases h
  · rintro ⟨hmark, rest, hread, hend⟩
    unfold readChars
    split
    next => exact absurd rfl (hmark _)
    next =>
      rw [hread]
      simp only [bind, Except.bind, hend]
      rfl

end

end FlexForm.Json
