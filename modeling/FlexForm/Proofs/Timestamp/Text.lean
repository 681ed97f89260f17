import FlexForm.Proofs.Json.Numerals
import FlexForm.Timestamp.Reader

/-! # Reading back a written point in time

The written form of a point in time has a fixed number of digits for each part, so the reader finds
every part where it was put.

* `Timestamp.toList_padded`: the digits of a part.
* `Timestamp.readDate_written`, `readSeconds?_written`, `readOffset?_written`: the stretches of the
  text, one after the other.
* `Timestamp.load_text`: the text of a point in time is read as that point.
-/

namespace FlexForm.Timestamp
set_option autoImplicit false

open Json

/-! ## Padded numbers -/

theorem padded_digits (width : ℕ) {n : ℕ} (hwidth : 0 < width) (h : n < 10 ^ width) :
    (padded width n).toList.length = width ∧ AllDigits (padded width n).toList ∧
      decimalOf (padded width n).toList = n := by
  have hlength : (Nat.toDigits 10 n).length ≤ width :=
    (Nat.length_toDigits_le_iff (by norm_num) hwidth).2 h
  rw [padded, String.toList_ofList]
  refine ⟨?_, (allDigits_replicate _).append (allDigits_toDigits n), ?_⟩
  · rw [List.length_append, List.length_replicate]
    omega
  · rw [decimalOf_zeros_append, decimalOf_toDigits]

theorem toList_padded_two {n : ℕ} (h : n < 100) : ∃ a b, (padded 2 n).toList = [a, b] ∧
    a.isDigit = true ∧ b.isDigit = true ∧ decimalOf [a, b] = n := by
  obtain ⟨hlength, hdigits, hvalue⟩ := padded_digits 2 (by norm_num) h
  obtain ⟨a, b, hab⟩ := List.length_eq_two.1 hlength
  rw [hab] at hdigits hvalue
  exact ⟨a, b, hab, hdigits a (by simp), hdigits b (by simp), hvalue⟩

theorem toList_padded_four {n : ℕ} (h : n < 10000) : ∃ a b c d, (padded 4 n).toList = [a, b, c, d] ∧
    [a, b, c, d].all Char.isDigit = true ∧ decimalOf [a, b, c, d] = n := by
  obtain ⟨hlength, hdigits, hvalue⟩ := padded_digits 4 (by norm_num) h
  obtain ⟨a, rest, hrest⟩ := List.exists_cons_of_length_eq_add_one hlength
  rw [hrest, List.length_cons, Nat.add_right_cancel_iff] at hlength
  obtain ⟨b, c, d, rfl⟩ := List.length_eq_three.1 hlength
  rw [hrest] at hdigits hvalue
  exact ⟨a, b, c, d, hrest, List.all_eq_true.2 hdigits, hvalue⟩

/-! ## The parts of a text -/

variable {rest : List Char}

theorem readPair?_written {n : ℕ} (h : n < 100) :
    readPair? ((padded 2 n).toList ++ rest) = some (n, rest) := by
  obtain ⟨a, b, hab, ha, hb, hvalue⟩ := toList_padded_two h
  rw [hab]
  simp [readPair?, ha, hb, hvalue]

theorem readDate_written {year month day : ℕ} (hyear : year ≤ 9999)
    (hmonth : 1 ≤ month ∧ month ≤ 12) (hday : 1 ≤ day ∧ day ≤ daysIn year month) :
    readDate ((padded 4 year).toList ++ '-' :: ((padded 2 month).toList ++
      '-' :: ((padded 2 day).toList ++ rest))) = .ok ((year, month, day), rest) := by
  have hmost : daysIn year month ≤ 31 := by
    unfold daysIn
    split
    next => split <;> omega
    all_goals omega
  obtain ⟨y1, y2, y3, y4, hy, hydigits, hyvalue⟩ := toList_padded_four (n := year) (by omega)
  obtain ⟨m1, m2, hm, hm1, hm2, hmvalue⟩ := toList_padded_two (n := month) (by omega)
  obtain ⟨d1, d2, hd, hd1, hd2, hdvalue⟩ := toList_padded_two (n := day) (by omega)
  have hmonth' : ¬ (month = 0 ∨ 12 < month) := by omega
  have hday' : ¬ (day = 0 ∨ daysIn year month < day) := by omega
  rw [hy, hm, hd]
  simp [readDate, hydigits, hm1, hm2, hd1, hd2, hyvalue, hmvalue, hdvalue, hmonth', hday']

/-- The fraction of a second as it is written. -/
def fractionChars (micro : ℕ) : List Char :=
  if micro = 0 then [] else '.' :: (padded 6 micro).toList

/-- What may follow the seconds: no digit and no mark of a fraction. -/
def EndsSeconds (rest : List Char) : Prop :=
  ∀ c, rest.head? = some c → c.isDigit = false ∧ c ≠ '.' ∧ c ≠ ','

theorem readMicros?_written {micro : ℕ} (h : micro < 1000000) (hrest : EndsSeconds rest) :
    readMicros? (fractionChars micro ++ rest) = some (micro, rest) := by
  unfold fractionChars
  split
  next hzero =>
    cases rest with
    | nil => simp [hzero, readMicros?]
    | cons c more =>
      obtain ⟨-, hdot, hcomma⟩ := hrest c rfl
      simp [hzero, readMicros?, hdot, hcomma]
  next =>
    obtain ⟨hlength, hdigits, hvalue⟩ := padded_digits 6 (by norm_num) h
    have hnoDigit : NoDigit rest := fun c hc => (hrest c hc).1
    have hne : (padded 6 micro).toList ≠ [] := by
      intro hnil
      rw [hnil] at hlength
      cases hlength
    have hall : (padded 6 micro).toList.take 6 = (padded 6 micro).toList :=
      List.take_of_length_le hlength.le
    rw [List.cons_append]
    simp only [readMicros?, beq_self_eq_true, Bool.true_or, if_true,
      takeWhile_digits hdigits hnoDigit, dropWhile_digits hdigits hnoDigit, List.isEmpty_iff, hne,
      if_false, hall, hlength, Nat.sub_self, List.replicate_zero, List.append_nil, hvalue]

theorem readSeconds?_written {second micro : ℕ} (hsecond : second < 60) (hmicro : micro < 1000000)
    (hrest : EndsSeconds rest) :
    readSeconds? (':' :: ((padded 2 second).toList ++ (fractionChars micro ++ rest))) =
      some ((second, micro), rest) := by
  simp [readSeconds?, readPair?_written (show second < 100 by omega),
    readMicros?_written hmicro hrest]

/-! ## The offset -/

theorem toList_offsetText {o : ℤ} (h : o ≠ 0) : (offsetText (some o)).toList =
    (if o < 0 then '-' else '+') :: ((padded 2 (o.natAbs / 60 / 60)).toList ++
      ':' :: (padded 2 (o.natAbs / 60 % 60)).toList) := by
  by_cases hneg : o < 0
  · simp [offsetText, h, hneg]
  · simp [offsetText, h, hneg]

theorem endsSeconds_offsetText (offset : Option ℤ) : EndsSeconds (offsetText offset).toList := by
  intro c hc
  cases offset with
  | none => cases hc
  | some o =>
    by_cases hzero : o = 0
    · subst hzero
      cases hc
      decide
    · rw [toList_offsetText hzero] at hc
      cases hc
      split <;> decide

theorem readOffset?_written {offset : Option ℤ}
    (h : ∀ o ∈ offset, o.natAbs < 86400 ∧ o % 60 = 0) :
    readOffset? (offsetText offset).toList = some offset := by
  cases offset with
  | none => rfl
  | some o =>
    obtain ⟨hbound, hwhole⟩ := h o rfl
    by_cases hzero : o = 0
    · subst hzero
      rfl
    · have hsum : ((o.natAbs / 60 / 60 : ℕ) : ℤ) * 3600 + (o.natAbs / 60 % 60 : ℕ) * 60 =
          o.natAbs := by
        omega
      have hhours : o.natAbs / 60 / 60 < 24 := by omega
      have hminutes : o.natAbs / 60 % 60 < 60 := Nat.mod_lt _ (by norm_num)
      rw [toList_offsetText hzero]
      generalize o.natAbs / 60 / 60 = hours at *
      generalize o.natAbs / 60 % 60 = minutes at *
      obtain ⟨h1, h2, hh, hh1, hh2, hhvalue⟩ := toList_padded_two (n := hours) (by omega)
      obtain ⟨m1, m2, hm, hm1, hm2, hmvalue⟩ := toList_padded_two (n := minutes) (by omega)
      rw [hh, hm]
      by_cases hneg : o < 0
      · have ho : -((minutes : ℤ) * 60) + -((hours : ℤ) * 3600) = o := by omega
        simp [readOffset?, readPair?, hneg, hh1, hh2, hm1, hm2, hhvalue, hmvalue, hhours,
          hminutes, ho]
      · have ho : (hours : ℤ) * 3600 + minutes * 60 = o := by omega
        simp [readOffset?, readPair?, hneg, hh1, hh2, hm1, hm2, hhvalue, hmvalue, hhours,
          hminutes, ho]

/-! ## The whole text -/

theorem toList_text (t : Timestamp) : t.text.toList =
    (padded 4 t.year).toList ++ '-' :: ((padded 2 t.month).toList ++
      '-' :: ((padded 2 t.day).toList ++ 'T' :: ((padded 2 t.hour).toList ++
        ':' :: ((padded 2 t.minute).toList ++ ':' :: ((padded 2 t.second).toList ++
          (fractionChars t.micro ++ (offsetText t.offset).toList)))))) := by
  by_cases hzero : t.micro = 0
  · simp [text, fractionChars, hzero]
  · simp [text, fractionChars, hzero]

theorem ofText?_text (t : Timestamp) : ofText? t.text.toList = some t := by
  obtain ⟨hyear, hyear', hmonth, hmonth', hday, hday', hhour, hminute, hsecond, hmicro, hoffset⟩ :=
    t.fits
  rw [toList_text, ofText?, readDate_written hyear' ⟨hmonth, hmonth'⟩ ⟨hday, hday'⟩]
  simp [readPair?_written (show t.hour < 100 by omega),
    readPair?_written (show t.minute < 100 by omega),
    readSeconds?_written hsecond hmicro (endsSeconds_offsetText t.offset),
    readOffset?_written hoffset, make?_eq_some]

/-- The text of a point in time is read as that point. -/
theorem load_text (t : Timestamp) : load (.str t.text) = .ok t := by
  simp [load, ofText?_text]

end FlexForm.Timestamp
