import FlexForm.Proofs.Json.Steps
import FlexForm.Proofs.Number.Decimal

/-! # Written numbers read back

A number in a text ends before the first character that cannot go on with it. Up to there the
digits, the fraction and the exponent are read one after the other, and together they denote the
rational that was written.

* `readNumber_intChars`: an integer of at most 4300 digits is read back.
* `readNumber_write`: a finite floating point number is read back, in every layout.
-/

namespace FlexForm.Json
set_option autoImplicit false

/-! ## Runs of digits -/

/-- No character at the start of the text goes on with a number. -/
def EndsNumber (rest : List Char) : Prop :=
  ∀ c, rest.head? = some c → c.isDigit = false ∧ c ≠ '.' ∧ c ≠ 'e' ∧ c ≠ 'E'

/-- The text does not start with a digit. -/
def NoDigit (rest : List Char) : Prop := ∀ c, rest.head? = some c → c.isDigit = false

def AllDigits (ds : List Char) : Prop := ∀ c ∈ ds, c.isDigit = true

theorem EndsNumber.noDigit {rest : List Char} (h : EndsNumber rest) : NoDigit rest :=
  fun c hc => (h c hc).1

theorem takeWhile_digits {ds rest : List Char} (hd : AllDigits ds) (hr : NoDigit rest) :
    (ds ++ rest).takeWhile Char.isDigit = ds := by
  rw [List.takeWhile_append_of_pos hd]
  cases rest with
  | nil => simp
  | cons c tail => simp [hr c rfl]

theorem dropWhile_digits {ds rest : List Char} (hd : AllDigits ds) (hr : NoDigit rest) :
    (ds ++ rest).dropWhile Char.isDigit = rest := by
  rw [List.dropWhile_append_of_pos hd]
  cases rest with
  | nil => rfl
  | cons c tail => simp [hr c rfl]

theorem allDigits_toDigits (n : ℕ) : AllDigits (Nat.toDigits 10 n) :=
  fun _ hc => Nat.isDigit_of_mem_toDigits (by norm_num) (by norm_num) hc

theorem allDigits_replicate (n : ℕ) : AllDigits (List.replicate n '0') :=
  fun c hc => by rw [(List.mem_replicate.1 hc).2]; rfl

theorem AllDigits.append {ds es : List Char} (hd : AllDigits ds) (he : AllDigits es) :
    AllDigits (ds ++ es) := by
  intro c hc
  rcases List.mem_append.1 hc with h | h
  · exact hd c h
  · exact he c h

theorem decimalOf_eq (ds : List Char) : decimalOf ds = Nat.ofDigitChars 10 ds 0 := by
  unfold decimalOf
  rw [Nat.ofDigitChars_eq_foldl]
  congr 1
  funext n c
  rw [Nat.mul_comm]
  rfl

theorem decimalOf_toDigits (n : ℕ) : decimalOf (Nat.toDigits 10 n) = n := by
  rw [decimalOf_eq, Nat.ofDigitChars_ten_toDigits]

theorem decimalOf_append_zeros (ds : List Char) (n : ℕ) :
    decimalOf (ds ++ List.replicate n '0') = decimalOf ds * 10 ^ n := by
  rw [decimalOf_eq, decimalOf_eq, Nat.ofDigitChars_append, Nat.ofDigitChars_replicate_zero,
    Nat.mul_comm]

theorem decimalOf_zeros_append (ds : List Char) (n : ℕ) :
    decimalOf (List.replicate n '0' ++ ds) = decimalOf ds := by
  rw [decimalOf_eq, decimalOf_eq, Nat.ofDigitChars_append, Nat.ofDigitChars_replicate_zero,
    Nat.mul_zero]

/-- No digit but a single zero starts with zero. -/
def Canonical (ds : List Char) : Prop := ∃ c tail, ds = c :: tail ∧ (c = '0' → tail = [])

theorem canonical_toDigits (n : ℕ) : Canonical (Nat.toDigits 10 n) := by
  induction n using Nat.strongRecOn with
  | ind n ih =>
    rw [Nat.toDigits_eq_if (by norm_num)]
    split
    · exact ⟨_, [], rfl, fun _ => rfl⟩
    · rename_i hge
      obtain ⟨c, tail, hc, h0⟩ := ih (n / 10) (by omega)
      refine ⟨c, tail ++ [(n % 10).digitChar], by rw [hc]; rfl, fun hzero => ?_⟩
      -- a lone zero would be the digits of zero, but `n / 10` is positive here
      exfalso
      have h1 : decimalOf (Nat.toDigits 10 (n / 10)) = 0 := by
        rw [hc, h0 hzero, hzero]
        rfl
      rw [decimalOf_toDigits] at h1
      omega

/-! ## Parts of a number -/

theorem readFraction_of_digits {ds rest : List Char} (hne : ds ≠ []) (hd : AllDigits ds)
    (hr : NoDigit rest) : readFraction ('.' :: ds ++ rest) = (ds, rest) := by
  obtain ⟨c, tail, rfl⟩ := List.exists_cons_of_ne_nil hne
  have hc : c.isDigit = true := hd c (by simp)
  have h1 := takeWhile_digits hd hr
  have h2 := dropWhile_digits hd hr
  simp only [List.cons_append] at h1 h2
  simp only [List.cons_append, readFraction, hc, if_true, h1, h2]

theorem readFraction_of_head {s : List Char} (h : s.head? ≠ some '.') :
    readFraction s = ([], s) := by
  unfold readFraction
  split
  · simp at h
  · rfl

theorem readExponent_of_head {s : List Char} (h : s.head? ≠ some 'e') (h' : s.head? ≠ some 'E') :
    readExponent s = (none, s) := by
  cases s with
  | nil => rfl
  | cons c tail =>
    simp only [List.head?_cons, ne_eq, Option.some.injEq] at h h'
    have hc : (c == 'e' || c == 'E') = false := by simp [h, h']
    simp [readExponent, hc]

theorem isDigit_ne_sign {c : Char} (h : c.isDigit = true) : c ≠ '-' ∧ c ≠ '+' := by
  refine ⟨?_, ?_⟩ <;> rintro rfl <;> simp at h

theorem readExponent_exponent (l : Layout) (e : ℤ) {rest : List Char} (hr : NoDigit rest) :
    readExponent (l.exponent e ++ rest) = (some e, rest) := by
  set ds := List.replicate (l.width - (Nat.toDigits 10 e.natAbs).length) '0' ++
    Nat.toDigits 10 e.natAbs with hds
  have hd : AllDigits ds := (allDigits_replicate _).append (allDigits_toDigits _)
  have hvalue : decimalOf ds = e.natAbs := by rw [decimalOf_zeros_append, decimalOf_toDigits]
  have hne : ds ≠ [] := List.append_ne_nil_of_right_ne_nil _ Nat.toDigits_ne_nil
  have h1 := takeWhile_digits hd hr
  have h2 := dropWhile_digits hd hr
  have hempty : ds.isEmpty = false := by simpa using hne
  unfold Layout.exponent
  simp only [← hds]
  split
  · rename_i hneg
    simp only [List.cons_append, readExponent, beq_self_eq_true, Bool.true_or, if_true, h1, h2,
      hempty, hvalue]
    simp only [Bool.false_eq_true, if_false, Prod.mk.injEq, Option.some.injEq, and_true]
    omega
  · rename_i hnonneg
    have hnat : ((e.natAbs : ℕ) : ℤ) = e := by omega
    split
    · simp [readExponent, h1, h2, hempty, hvalue, hnat]
    · obtain ⟨c, tail, hc⟩ := List.exists_cons_of_ne_nil hne
      have hsign := isDigit_ne_sign (hd c (by rw [hc]; simp))
      rw [hc] at h1 h2 hempty hvalue ⊢
      simp only [List.cons_append] at h1 h2 ⊢
      simp only [readExponent, beq_self_eq_true, Bool.true_or, if_true]
      split
      · rename_i heq
        exact absurd (List.cons.inj heq).1 hsign.1
      · rename_i heq
        exact absurd (List.cons.inj heq).1 hsign.2
      · simp [h1, h2, hempty, hvalue, hnat]

/-! ## Whole numbers -/

/-- A leading zero is the only digit, so both ways to find the digits agree. -/
theorem wholeDigits_canonical {c : Char} {more tail : List Char} (hd : AllDigits (c :: more))
    (h0 : c = '0' → more = []) (ht : NoDigit tail) :
    wholeDigits c (more ++ tail) = (c :: more, tail) := by
  unfold wholeDigits
  rw [← List.cons_append, takeWhile_digits hd ht, dropWhile_digits hd ht]
  by_cases hzero : c = '0'
  · simp [hzero, h0 hzero]
  · simp [hzero]

/-- What is read after the digits before the point decides about the kind of number. -/
theorem readNumber_canonical (negative : Bool) (ds : List Char) {tail : List Char}
    (hd : AllDigits ds)
    (hc : Canonical ds) (ht : NoDigit tail) :
    readNumber (signChars negative ++ ds ++ tail) =
      if (readFraction tail).1.isEmpty && (readExponent (readFraction tail).2).1.isNone then
        if ds.length > maxDigits then
          .error ⟨.digits ds.length, (signChars negative ++ ds ++ tail).length⟩
        else
          .ok (.int (if negative then -(decimalOf ds : ℤ) else decimalOf ds),
            (readExponent (readFraction tail).2).2)
      else
        .ok (.float (Binary64.ofDecimal negative (decimalOf (ds ++ (readFraction tail).1))
          ((readExponent (readFraction tail).2).1.getD 0 - (readFraction tail).1.length)),
          (readExponent (readFraction tail).2).2) := by
  obtain ⟨c, more, rfl, h0⟩ := hc
  have hdigit : c.isDigit = true := hd c List.mem_cons_self
  have hminus : ((c :: more) ++ tail).head? ≠ some '-' := by
    simpa using (isDigit_ne_sign hdigit).1
  have hsign := numberSign_signChars negative hminus
  rw [← List.append_assoc] at hsign
  exact readNumber_of_sign hsign hdigit (wholeDigits_canonical hd h0 ht) rfl rfl

/-- An integer that is short enough is read back. -/
theorem readNumber_intChars {n : ℤ} (hn : isShortInt n = true) {rest : List Char}
    (hr : EndsNumber rest) : readNumber (intChars n ++ rest) = .ok (.int n, rest) := by
  have hlength : ¬ (Nat.toDigits 10 n.natAbs).length > maxDigits := by
    rw [not_lt, Nat.length_toDigits_le_iff (by norm_num) (by decide)]
    simpa [isShortInt] using hn
  have hchars : intChars n ++ rest =
      signChars (decide (n < 0)) ++ Nat.toDigits 10 n.natAbs ++ rest := by
    unfold intChars signChars
    by_cases h : n < 0 <;> simp [h]
  have hsigned : (if n < 0 then -(n.natAbs : ℤ) else n.natAbs) = n := by
    clear hn hlength
    split <;> omega
  have hfraction : readFraction rest = ([], rest) := readFraction_of_head fun h => (hr _ h).2.1 rfl
  have hexponent : readExponent rest = (none, rest) :=
    readExponent_of_head (fun h => (hr _ h).2.2.1 rfl) fun h => (hr _ h).2.2.2 rfl
  rw [hchars, readNumber_canonical _ _ (allDigits_toDigits _) (canonical_toDigits _) hr.noDigit,
    hfraction, hexponent, decimalOf_toDigits]
  simp only [List.isEmpty_nil, Option.isNone_none, Bool.and_self, if_true, hlength, if_false,
    decide_eq_true_eq, hsigned]

theorem readNumber_fraction (negative : Bool) (ds fs : List Char) {tail rest : List Char}
    {e : Option ℤ}
    (hd : AllDigits ds) (hc : Canonical ds) (hf : AllDigits fs) (hne : fs ≠ [])
    (ht : NoDigit tail) (he : readExponent tail = (e, rest)) :
    readNumber (signChars negative ++ ds ++ ('.' :: fs ++ tail)) =
      .ok (.float (Binary64.ofDecimal negative (decimalOf (ds ++ fs)) (e.getD 0 - fs.length)),
        rest) := by
  have hpoint : NoDigit ('.' :: fs ++ tail) := by
    intro c h
    simp only [List.cons_append, List.head?_cons, Option.some.injEq] at h
    rw [← h]
    rfl
  rw [readNumber_canonical _ _ hd hc hpoint, readFraction_of_digits hne hf ht, he]
  simp [hne]

theorem readNumber_exponent (negative : Bool) {ds tail rest : List Char} {e : ℤ}
    (hd : AllDigits ds) (hc : Canonical ds) (ht : NoDigit tail) (hp : tail.head? ≠ some '.')
    (he : readExponent tail = (some e, rest)) :
    readNumber (signChars negative ++ ds ++ tail) =
      .ok (.float (Binary64.ofDecimal negative (decimalOf ds) e), rest) := by
  rw [readNumber_canonical _ _ hd hc ht, readFraction_of_head hp, he]
  simp

/-! ## The layouts of a floating point number -/

/-- The digits start with one that is not zero. -/
def Leading (ds : List Char) : Prop := ∃ c tail, ds = c :: tail ∧ c ≠ '0'

theorem Leading.append {ds : List Char} (h : Leading ds) (more : List Char) :
    Leading (ds ++ more) := by
  obtain ⟨c, tail, rfl, h0⟩ := h
  exact ⟨c, tail ++ more, rfl, h0⟩

theorem Leading.canonical {ds : List Char} (h : Leading ds) : Canonical ds := by
  obtain ⟨c, tail, rfl, h0⟩ := h
  exact ⟨c, tail, rfl, fun h => absurd h h0⟩

theorem Leading.ne_nil {ds : List Char} (h : Leading ds) : ds ≠ [] := by
  obtain ⟨c, tail, rfl, -⟩ := h
  exact List.cons_ne_nil c tail

theorem leading_toDigits {n : ℕ} (hn : 0 < n) : Leading (Nat.toDigits 10 n) := by
  obtain ⟨c, tail, hc, h0⟩ := canonical_toDigits n
  refine ⟨c, tail, hc, fun hzero => ?_⟩
  have h1 : decimalOf (Nat.toDigits 10 n) = 0 := by
    rw [hc, h0 hzero, hzero]
    rfl
  rw [decimalOf_toDigits] at h1
  omega

/-- Digits with a point between them denote the decimal, though perhaps with a zero at the end. -/
structure Pointed (d : Decimal) (whole fraction : List Char) : Prop where
  wholeDigits : AllDigits whole
  canonical : Canonical whole
  fractionDigits : AllDigits fraction
  ne_nil : fraction ≠ []
  value : (decimalOf (whole ++ fraction) : ℚ) * 10 ^ (-fraction.length : ℤ) =
    decimalOf d.digits * 10 ^ (d.point - d.digits.length)
  exponent : min (-1) (d.point - d.digits.length) ≤ (-fraction.length : ℤ)

section
variable {d : Decimal}

theorem pointed_before (hd : AllDigits d.digits) (hl : Leading d.digits) (hpoint : d.point ≤ 0) :
    Pointed d ['0'] (List.replicate (-d.point).toNat '0' ++ d.digits) := by
  have hvalue : decimalOf (['0'] ++ (List.replicate (-d.point).toNat '0' ++ d.digits)) =
      decimalOf d.digits := by
    rw [← List.append_assoc, show ['0'] = List.replicate 1 '0' from rfl,
      List.replicate_append_replicate, decimalOf_zeros_append]
  have hlength : (-(List.replicate (-d.point).toNat '0' ++ d.digits).length : ℤ) =
      d.point - d.digits.length := by
    rw [List.length_append, List.length_replicate]
    omega
  exact {
    wholeDigits := by simp [AllDigits]
    canonical := ⟨'0', [], rfl, fun _ => rfl⟩
    fractionDigits := (allDigits_replicate _).append hd
    ne_nil := List.append_ne_nil_of_right_ne_nil _ hl.ne_nil
    value := by rw [hvalue, hlength]
    exponent := by rw [hlength]; exact min_le_right _ _ }

theorem pointed_inside (hd : AllDigits d.digits) (hl : Leading d.digits) (hpoint : 0 < d.point)
    (hinside : d.point.toNat < d.digits.length) :
    Pointed d (d.digits.take d.point.toNat) (d.digits.drop d.point.toNat) := by
  have hcanonical : Canonical (d.digits.take d.point.toNat) := by
    obtain ⟨c, tail, hc, h0⟩ := hl
    obtain ⟨k, hk⟩ : ∃ k, d.point.toNat = k + 1 := ⟨d.point.toNat - 1, by omega⟩
    exact ⟨c, tail.take k, by rw [hc, hk, List.take_succ_cons], fun h => absurd h h0⟩
  have hlength : (-(d.digits.drop d.point.toNat).length : ℤ) = d.point - d.digits.length := by
    rw [List.length_drop]
    omega
  exact {
    wholeDigits := fun c hc => hd c (List.mem_of_mem_take hc)
    canonical := hcanonical
    fractionDigits := fun c hc => hd c (List.mem_of_mem_drop hc)
    ne_nil := fun h => absurd (List.drop_eq_nil_iff.1 h) (not_le.2 hinside)
    value := by rw [List.take_append_drop, hlength]
    exponent := by rw [hlength]; exact min_le_right _ _ }

theorem pointed_behind (hd : AllDigits d.digits) (hl : Leading d.digits)
    (hbehind : d.digits.length ≤ d.point.toNat) (hpoint : 0 < d.point) :
    Pointed d (d.digits ++ List.replicate (d.point.toNat - d.digits.length) '0') ['0'] := by
  have hvalue : decimalOf
      (d.digits ++ List.replicate (d.point.toNat - d.digits.length) '0' ++ ['0']) =
      decimalOf d.digits * 10 ^ (d.point.toNat - d.digits.length + 1) := by
    rw [List.append_assoc, show ['0'] = List.replicate 1 '0' from rfl,
      List.replicate_append_replicate, decimalOf_append_zeros]
  have hexponent : ((d.point.toNat - d.digits.length + 1 : ℕ) : ℤ) + -1 =
      d.point - d.digits.length := by omega
  exact {
    wholeDigits := hd.append (allDigits_replicate _)
    canonical := (hl.append _).canonical
    fractionDigits := by simp [AllDigits]
    ne_nil := List.cons_ne_nil _ _
    value := by
      rw [hvalue, Nat.cast_mul, Nat.cast_pow, mul_assoc, ← hexponent,
        zpow_add₀ (by norm_num), zpow_natCast]
      rfl
    exponent := min_le_left _ _ }

/-- The point stands before the digits, inside of them or behind them. -/
theorem exists_pointed (hd : AllDigits d.digits) (hl : Leading d.digits) :
    ∃ whole fraction, Layout.positional d = whole ++ '.' :: fraction ∧
      Pointed d whole fraction := by
  unfold Layout.positional
  simp only
  split_ifs with hbefore hinside
  · exact ⟨_, _, rfl, pointed_before hd hl hbefore⟩
  · exact ⟨_, _, rfl, pointed_inside hd hl (not_le.1 hbefore) hinside⟩
  · exact ⟨_, _, rfl, pointed_behind hd hl (not_lt.1 hinside) (not_le.1 hbefore)⟩

theorem readNumber_positional (negative : Bool) {rest : List Char}
    (hd : AllDigits d.digits) (hl : Leading d.digits) (hr : EndsNumber rest) :
    ∃ (n : ℕ) (e : ℤ), readNumber (signChars negative ++ Layout.positional d ++ rest) =
        .ok (.float (Binary64.ofDecimal negative n e), rest) ∧
      (n : ℚ) * 10 ^ e = decimalOf d.digits * 10 ^ (d.point - d.digits.length) ∧
      min (-1) (d.point - d.digits.length) ≤ e := by
  obtain ⟨whole, fraction, hword, h⟩ := exists_pointed hd hl
  have hexponent : readExponent rest = (none, rest) :=
    readExponent_of_head (fun h => (hr _ h).2.2.1 rfl) fun h => (hr _ h).2.2.2 rfl
  have hread := readNumber_fraction negative whole fraction h.wholeDigits h.canonical
    h.fractionDigits h.ne_nil hr.noDigit hexponent
  rw [Option.getD_none, zero_sub] at hread
  refine ⟨_, _, ?_, h.value, h.exponent⟩
  rw [hword]
  simpa using hread

end

theorem readNumber_scientific (negative : Bool) (l : Layout) {d : Decimal} {rest : List Char}
    (hd : AllDigits d.digits) (hc : Canonical d.digits) (hr : EndsNumber rest) :
    readNumber (signChars negative ++ l.scientific d ++ rest) =
      .ok (.float (Binary64.ofDecimal negative (decimalOf d.digits)
        (d.point - d.digits.length)), rest) := by
  have hexponent := readExponent_exponent l (d.point - 1) hr.noDigit
  have hhead : ∃ tail, l.exponent (d.point - 1) ++ rest = 'e' :: tail := by
    unfold Layout.exponent
    simp only
    split_ifs <;> exact ⟨_, rfl⟩
  obtain ⟨tail, htail⟩ := hhead
  have hstart : NoDigit (l.exponent (d.point - 1) ++ rest) := by
    intro c h
    rw [htail, List.head?_cons, Option.some.injEq] at h
    rw [← h]
    rfl
  have hpoint : (l.exponent (d.point - 1) ++ rest).head? ≠ some '.' := by
    rw [htail]
    simp
  obtain ⟨c, more, hdigits, h0⟩ := hc
  unfold Layout.scientific
  cases more with
  | nil =>
    rw [hdigits] at hd ⊢
    have hread := readNumber_exponent negative hd ⟨c, [], rfl, h0⟩ hstart hpoint hexponent
    simpa using hread
  | cons c' more =>
    rw [hdigits] at hd ⊢
    have hread := readNumber_fraction negative [c] (c' :: more)
      (fun a ha => hd a (by simp_all)) ⟨c, [], rfl, fun _ => rfl⟩
      (fun a ha => hd a (List.mem_cons_of_mem c ha)) (by simp) hstart hexponent
    have hlength : ((some (d.point - 1)).getD 0 - ((c' :: more).length : ℤ) : ℤ) =
        d.point - ((c :: c' :: more).length : ℤ) := by
      simp only [List.length_cons, Option.getD_some]
      omega
    rw [hlength] at hread
    simpa using hread

/-! ## The shortest digits -/

theorem le_halo_top (x : Binary64) : -400 ≤ x.halo.top := by
  have hden : Nat.log2 x.halo.den = 1076 := by
    rw [Binary64.halo_den, Nat.log2_two_pow]
  unfold Binary64.Halo.top
  simp only [hden]
  split_ifs <;> omega

theorem trim_zeros (ds : List Char) :
    ∃ k, ds = (ds.reverse.dropWhile (· == '0')).reverse ++ List.replicate k '0' := by
  refine ⟨(ds.reverse.takeWhile (· == '0')).length, ?_⟩
  have hzeros : ds.reverse.takeWhile (· == '0') =
      List.replicate (ds.reverse.takeWhile (· == '0')).length '0' := by
    refine List.eq_replicate_of_mem fun c hc => ?_
    have h := List.all_eq_true.1 List.all_takeWhile c hc
    exact beq_iff_eq.1 h
  calc ds = ds.reverse.reverse := (List.reverse_reverse ds).symm
    _ = (ds.reverse.takeWhile (· == '0') ++ ds.reverse.dropWhile (· == '0')).reverse := by
      rw [List.takeWhile_append_dropWhile]
    _ = _ := by rw [List.reverse_append, hzeros, List.reverse_replicate, List.length_replicate]

theorem leading_of_append_zeros {ds : List Char} {k : ℕ}
    (h : Leading (ds ++ List.replicate k '0')) : Leading ds := by
  obtain ⟨c, tail, hc, h0⟩ := h
  cases ds with
  | nil =>
    rw [List.nil_append] at hc
    have hmem : c ∈ List.replicate k '0' := by rw [hc]; simp
    exact absurd (List.mem_replicate.1 hmem).2 h0
  | cons c' more => exact ⟨c', more, rfl, by rwa [(List.cons.inj hc).1]⟩

/-- The digits that are found denote a rational of the interval of the number. -/
theorem shortest_spec {x : Binary64} (hm : 0 < x.significand) :
    AllDigits x.shortest.digits ∧ Leading x.shortest.digits ∧
      x.halo.Holds ((decimalOf x.shortest.digits : ℚ) *
        10 ^ (x.shortest.point - x.shortest.digits.length)) ∧
      -500 ≤ x.shortest.point - x.shortest.digits.length := by
  obtain ⟨hholds, hstep⟩ := Binary64.search_holds hm
  have htop := le_halo_top x
  have hshortest : x.shortest =
      ⟨((Nat.toDigits 10 (x.halo.search 17 1).1).reverse.dropWhile (· == '0')).reverse,
        (Nat.toDigits 10 (x.halo.search 17 1).1).length + (x.halo.search 17 1).2⟩ := by
    unfold Binary64.shortest
    rw [if_neg (by simpa using hm.ne')]
  generalize x.halo.search 17 1 = found at hholds hstep hshortest
  obtain ⟨c, step⟩ := found
  dsimp only at hholds hstep hshortest
  have hpos : 0 < c := by
    by_contra hzero
    obtain rfl : c = 0 := by omega
    have h1 := (Binary64.halo_low_pos hm).trans hholds.bounds.1
    have h2 : (0 : ℚ) < 2 ^ (-1075 : ℤ) := by positivity
    simp only [Nat.cast_zero, zero_mul] at h1
    linarith
  have hall := allDigits_toDigits c
  have hleading := leading_toDigits hpos
  have hvalue := decimalOf_toDigits c
  rw [hshortest]
  clear hshortest
  dsimp only
  generalize Nat.toDigits 10 c = ds at *
  obtain ⟨k, hk⟩ := trim_zeros ds
  generalize (ds.reverse.dropWhile (· == '0')).reverse = trimmed at *
  subst hk
  rw [decimalOf_append_zeros] at hvalue
  have hpoint : ((trimmed ++ List.replicate k '0').length : ℤ) + step - trimmed.length =
      k + step := by
    simp only [List.length_append, List.length_replicate]
    push_cast
    ring
  refine ⟨fun c hc => hall c (by simp [hc]), leading_of_append_zeros hleading, ?_, by omega⟩
  rw [hpoint, zpow_add₀ (by norm_num), zpow_natCast, ← mul_assoc]
  rw [← hvalue] at hholds
  exact_mod_cast hholds

/-- Every finite number is read back from its text, in every layout. -/
theorem readNumber_write (l : Layout) {x : Binary64} (hx : x.isFinite = true) {rest : List Char}
    (hr : EndsNumber rest) : readNumber (l.write x ++ rest) = .ok (.float x, rest) := by
  have hexponentBits : (x.exponentBits == 2047) = false := by simpa [Binary64.isFinite] using hx
  have hwrite : l.write x = signChars x.isNegative ++
      (if l.lowest ≤ x.shortest.point && x.shortest.point ≤ l.highest
        then Layout.positional x.shortest else l.scientific x.shortest) := by
    unfold Layout.write signChars
    simp [Binary64.isNaN, Binary64.isInfinite, hexponentBits]
  rw [hwrite]
  rcases Nat.eq_zero_or_pos x.significand with hzero | hm
  · have hshortest : x.shortest = ⟨['0'], 1⟩ := by
      unfold Binary64.shortest
      rw [hzero]
      rfl
    have hx0 (e : ℤ) : Binary64.ofDecimal x.isNegative 0 e = x := by
      have hbits : x.unsignedBits = 0 := by
        have hshift : x.shift = 0 := by
          by_contra hne
          have := Binary64.le_significand_of_shift_pos (Nat.pos_of_ne_zero hne)
          omega
        rw [x.unsignedBits_eq, hzero, hshift, Nat.zero_mul]
      have hparts := x.ofParts_unsignedBits
      rw [hbits] at hparts
      exact hparts
    rw [hshortest]
    split_ifs
    · have hread := readNumber_fraction x.isNegative ['0'] ['0']
        (by simp [AllDigits]) ⟨'0', [], rfl, fun _ => rfl⟩ (by simp [AllDigits]) (by simp)
        hr.noDigit (readExponent_of_head (fun h => (hr _ h).2.2.1 rfl) fun h => (hr _ h).2.2.2 rfl)
      rw [show decimalOf (['0'] ++ ['0']) = 0 from rfl, hx0] at hread
      simpa [Layout.positional] using hread
    · rw [readNumber_scientific _ l (by simp [AllDigits]) ⟨'0', [], rfl, fun _ => rfl⟩ hr]
      rw [show decimalOf ['0'] = 0 from rfl, hx0]
  · obtain ⟨hd, hl, hholds, hsmall⟩ := shortest_spec hm
    split_ifs
    · obtain ⟨n, e, hread, hvalue, hle⟩ := readNumber_positional x.isNegative hd hl hr
      rw [hread, Binary64.ofDecimal_of_holds hx hm (by omega) (by rwa [hvalue])]
    · rw [readNumber_scientific _ l hd hl.canonical hr,
        Binary64.ofDecimal_of_holds hx hm (by omega) hholds]

end FlexForm.Json
