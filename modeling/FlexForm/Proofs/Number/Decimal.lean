import FlexForm.Proofs.Number.Rounding

/-! # The digits of a number read back

The digits that are found for a finite number denote a rational of its interval, so reading them
gives the number back. Powers of ten are compared with powers of two by the approximation
`0.30102 < log 2 < 0.30103`.

* `ofDecimal_of_holds`: a decimal of the interval is read as the number.
* `search_holds`: the search finds a decimal of the interval within seventeen digits.
-/

namespace FlexForm.Binary64
set_option autoImplicit false

/-! ## Powers of ten and of two -/

theorem log_two_bounds : 10 ^ 30102 ≤ 2 ^ 100000 ∧ 2 ^ 100000 ≤ 10 ^ 30103 := by decide +kernel

theorem ten_zpow_le_two_zpow {a b : ℤ} (h1 : 100000 * b ≤ 30102 * a)
    (h2 : 100000 * b ≤ 30103 * a) : (10 : ℚ) ^ b ≤ 2 ^ a := by
  have low : (10 : ℚ) ^ 30102 ≤ 2 ^ 100000 := by exact_mod_cast log_two_bounds.1
  have high : (2 : ℚ) ^ 100000 ≤ 10 ^ 30103 := by exact_mod_cast log_two_bounds.2
  have hten (c : ℤ) (h : 100000 * b ≤ c * a) :
      ((10 : ℚ) ^ b) ^ 100000 ≤ ((10 : ℚ) ^ c) ^ a := by
    rw [← zpow_natCast, ← zpow_mul, ← zpow_mul]
    refine zpow_le_zpow_right₀ (by norm_num) ?_
    push_cast
    linarith
  have htwo : ((2 : ℚ) ^ a) ^ 100000 = ((2 : ℚ) ^ 100000) ^ a := by
    rw [← zpow_natCast, ← zpow_natCast, ← zpow_mul, ← zpow_mul, mul_comm]
  refine le_of_pow_le_pow_left₀ (n := 100000) (by norm_num) (by positivity) ?_
  rw [htwo]
  rcases le_total 0 a with ha | ha
  · refine (hten 30102 h1).trans ?_
    exact zpow_le_zpow_left₀ ha (by positivity) (by exact_mod_cast low)
  · refine (hten 30103 h2).trans ?_
    obtain ⟨k, rfl⟩ : ∃ k : ℤ, a = -k := ⟨-a, (neg_neg a).symm⟩
    rw [zpow_neg, zpow_neg]
    refine inv_anti₀ (by positivity) ?_
    exact zpow_le_zpow_left₀ (by omega) (by positivity) (by exact_mod_cast high)

theorem two_zpow_le_ten_zpow {a b : ℤ} (h1 : 30102 * a ≤ 100000 * b)
    (h2 : 30103 * a ≤ 100000 * b) : (2 : ℚ) ^ a ≤ 10 ^ b := by
  have h : (10 : ℚ) ^ (-b) ≤ 2 ^ (-a) := ten_zpow_le_two_zpow (by linarith) (by linarith)
  rw [zpow_neg, zpow_neg] at h
  exact (inv_le_inv₀ (by positivity) (by positivity)).1 h

/-! ## Reading a decimal -/

theorem halo_low_pos {x : Binary64} (hm : 0 < x.significand) :
    (2 : ℚ) ^ (-1075 : ℤ) ≤ (x.halo.low : ℚ) / x.halo.den := by
  have hreach := x.reach_le
  have hm' : (1 : ℚ) ≤ x.significand := by exact_mod_cast hm
  have hulp : (2 : ℚ) ^ (-1074 : ℤ) ≤ x.ulp :=
    zpow_le_zpow_right₀ (by norm_num) (by omega)
  rw [halo_low hm, show (2 : ℚ) ^ (-1075 : ℤ) = 1 / 2 * 2 ^ (-1074 : ℤ) by
    rw [show (-1075 : ℤ) = -1 + -1074 by norm_num, zpow_add₀ (by norm_num)]; norm_num]
  exact mul_le_mul (by linarith) hulp (by positivity) (by linarith)

theorem halo_high_le (x : Binary64) : (x.halo.high : ℚ) / x.halo.den ≤ 2 ^ (1026 : ℤ) := by
  have hm : (x.significand : ℚ) + 1 ≤ 2 ^ 53 := by exact_mod_cast x.significand_lt
  have hulp : x.ulp ≤ 2 ^ (973 : ℤ) :=
    zpow_le_zpow_right₀ (by norm_num) (by have := x.shift_lt; omega)
  have hpos := x.ulp_pos
  rw [halo_high, show (1026 : ℤ) = ((53 : ℕ) : ℤ) + 973 by norm_num,
    zpow_add₀ (by norm_num), zpow_natCast]
  exact mul_le_mul (by linarith) hulp hpos.le (by positivity)

section
variable {digits : ℕ} {exponent : ℤ}

theorem two_zpow_log2_le (hd : digits ≠ 0) : (2 : ℚ) ^ (Nat.log2 digits : ℤ) ≤ digits := by
  rw [zpow_natCast]
  exact_mod_cast Nat.log2_self_le hd

theorem lt_two_zpow_log2 (digits : ℕ) : (digits : ℚ) < 2 ^ ((Nat.log2 digits : ℤ) + 1) := by
  exact_mod_cast Nat.lt_log2_self (n := digits)

/-- Up to 7700 binary digits, 0.301 is close enough to the decimal logarithm of 2. -/
theorem log2_le_of_le (hd : digits ≠ 0) (he : -2000 ≤ exponent)
    (hhigh : (digits : ℚ) * 10 ^ exponent ≤ 2 ^ (1026 : ℤ)) : (Nat.log2 digits : ℤ) ≤ 7700 := by
  have hten : (10 : ℚ) ^ (-exponent) ≤ 2 ^ (6650 : ℤ) :=
    ten_zpow_le_two_zpow (by linarith) (by linarith)
  have hpow : (2 : ℚ) ^ (Nat.log2 digits : ℤ) ≤ 2 ^ (1026 + 6650 : ℤ) := by
    calc (2 : ℚ) ^ (Nat.log2 digits : ℤ) ≤ digits := two_zpow_log2_le hd
      _ = digits * 10 ^ exponent * 10 ^ (-exponent) := by
        rw [mul_assoc, ← zpow_add₀ (by norm_num), add_neg_cancel, zpow_zero, mul_one]
      _ ≤ 2 ^ (1026 : ℤ) * 2 ^ (6650 : ℤ) :=
        mul_le_mul hhigh hten (by positivity) (by positivity)
      _ = 2 ^ (1026 + 6650 : ℤ) := (zpow_add₀ (by norm_num) _ _).symm
  have := (zpow_le_zpow_iff_right₀ (by norm_num : (1 : ℚ) < 2)).1 hpow
  omega

theorem size_le (hd : digits ≠ 0) (hlog : (Nat.log2 digits : ℤ) ≤ 7700)
    (hhigh : (digits : ℚ) * 10 ^ exponent ≤ 2 ^ (1026 : ℤ)) :
    (Nat.log2 digits : ℤ) * 301 / 1000 + exponent ≤ 330 := by
  set l : ℤ := (Nat.log2 digits : ℤ) with hl
  by_contra hbig
  have hten : (10 : ℚ) ^ (l * 301 / 1000) ≤ 2 ^ l := ten_zpow_le_two_zpow (by omega) (by omega)
  have hlarge : (2 : ℚ) ^ (1027 : ℤ) ≤ 2 ^ (1026 : ℤ) := by
    calc (2 : ℚ) ^ (1027 : ℤ) ≤ 10 ^ (331 : ℤ) :=
          two_zpow_le_ten_zpow (by norm_num) (by norm_num)
      _ ≤ 10 ^ (l * 301 / 1000 + exponent) := zpow_le_zpow_right₀ (by norm_num) (by omega)
      _ = 10 ^ (l * 301 / 1000) * 10 ^ exponent := zpow_add₀ (by norm_num) _ _
      _ ≤ digits * 10 ^ exponent :=
        mul_le_mul_of_nonneg_right (hten.trans (two_zpow_log2_le hd)) (by positivity)
      _ ≤ 2 ^ (1026 : ℤ) := hhigh
  have := (zpow_le_zpow_iff_right₀ (by norm_num : (1 : ℚ) < 2)).1 hlarge
  omega

theorem le_size (hlog : (Nat.log2 digits : ℤ) ≤ 7700)
    (hlow : (2 : ℚ) ^ (-1075 : ℤ) ≤ digits * 10 ^ exponent) :
    -360 ≤ (Nat.log2 digits : ℤ) * 301 / 1000 + exponent := by
  set l : ℤ := (Nat.log2 digits : ℤ) with hl
  by_contra hsmall
  have hten : (2 : ℚ) ^ (l + 1) ≤ 10 ^ (l * 301 / 1000 + 2) :=
    two_zpow_le_ten_zpow (by omega) (by omega)
  have htiny : (2 : ℚ) ^ (-1075 : ℤ) ≤ 2 ^ (-1076 : ℤ) := by
    calc (2 : ℚ) ^ (-1075 : ℤ) ≤ digits * 10 ^ exponent := hlow
      _ ≤ 10 ^ (l * 301 / 1000 + 2) * 10 ^ exponent :=
        mul_le_mul_of_nonneg_right ((lt_two_zpow_log2 digits).le.trans hten) (by positivity)
      _ = 10 ^ (l * 301 / 1000 + 2 + exponent) := (zpow_add₀ (by norm_num) _ _).symm
      _ ≤ 10 ^ (-359 : ℤ) := zpow_le_zpow_right₀ (by norm_num) (by omega)
      _ ≤ 2 ^ (-1076 : ℤ) := ten_zpow_le_two_zpow (by norm_num) (by norm_num)
  have := (zpow_le_zpow_iff_right₀ (by norm_num : (1 : ℚ) < 2)).1 htiny
  omega

end

/-- A rational of an interval, written with an exponent that is not out of all proportion, is
neither refused as too large nor as too small. -/
theorem size_bounds {x : Binary64} {digits : ℕ} {exponent : ℤ} (hm : 0 < x.significand)
    (hd : digits ≠ 0) (he : -2000 ≤ exponent)
    (hr : x.halo.Holds ((digits : ℚ) * 10 ^ exponent)) :
    (Nat.log2 digits : ℤ) * 301 / 1000 + exponent ≤ 330 ∧
      -360 ≤ (Nat.log2 digits : ℤ) * 301 / 1000 + exponent := by
  have hlow := (halo_low_pos hm).trans hr.bounds.1
  have hhigh := hr.bounds.2.trans x.halo_high_le
  have hlog := log2_le_of_le hd he hhigh
  exact ⟨size_le hd hlog hhigh, le_size hlog hlow⟩

/-- A decimal of the interval of a number is read as that number. -/
theorem ofDecimal_of_holds {x : Binary64} {digits : ℕ} {exponent : ℤ} (hx : x.isFinite = true)
    (hm : 0 < x.significand) (he : -2000 ≤ exponent)
    (hr : x.halo.Holds ((digits : ℚ) * 10 ^ exponent)) :
    ofDecimal x.isNegative digits exponent = x := by
  have hd : digits ≠ 0 := by
    rintro rfl
    have h1 := (halo_low_pos hm).trans hr.bounds.1
    have h2 : (0 : ℚ) < 2 ^ (-1075 : ℤ) := by positivity
    simp only [Nat.cast_zero, zero_mul] at h1
    linarith
  obtain ⟨h1, h2⟩ := size_bounds hm hd he hr
  unfold ofDecimal
  simp only [beq_iff_eq, hd, if_false, not_lt.2 h1, not_lt.2 h2]
  split
  · rename_i hneg
    refine ofRatio_of_holds hx hm (Nat.pos_of_ne_zero hd) (by positivity) ?_
    have hpow : (10 : ℚ) ^ exponent = 1 / (10 : ℚ) ^ (-exponent).toNat := by
      rw [← zpow_natCast, Int.toNat_of_nonneg (by omega), zpow_neg, one_div, inv_inv]
    rw [hpow, mul_one_div] at hr
    exact_mod_cast hr
  · rename_i hnonneg
    refine ofRatio_of_holds hx hm (Nat.mul_pos (Nat.pos_of_ne_zero hd) (by positivity))
      Nat.one_pos ?_
    have hpow : (10 : ℚ) ^ exponent = (10 : ℚ) ^ exponent.toNat := by
      rw [← zpow_natCast, Int.toNat_of_nonneg (by omega)]
    rw [hpow] at hr
    simpa using hr

/-! ## Finding the digits -/

theorem Halo.has_grid_iff {h : Halo} (hd : 0 < h.den) (c : ℕ) (step : ℤ) :
    h.has (c * 10 ^ step.toNat) (10 ^ (-step).toNat) = true ↔ h.Holds ((c : ℚ) * 10 ^ step) := by
  rw [has_iff hd _ (by positivity)]
  have hpow : (((c * 10 ^ step.toNat : ℕ) : ℚ) / ((10 ^ (-step).toNat : ℕ) : ℚ)) = c * 10 ^ step := by
    push_cast
    rw [mul_div_assoc]
    congr 1
    rcases le_total 0 step with hs | hs
    · rw [show (-step).toNat = 0 by omega, pow_zero, div_one, ← zpow_natCast,
        Int.toNat_of_nonneg hs]
    · rw [show step.toNat = 0 by omega, pow_zero, ← zpow_natCast, Int.toNat_of_nonneg (by omega),
        zpow_neg, one_div, inv_inv]
  rw [hpow]

theorem Halo.holds_of_onGrid? {h : Halo} (hd : 0 < h.den) {step : ℤ} {c : ℕ}
    (hc : h.onGrid? step = some c) : h.Holds ((c : ℚ) * 10 ^ step) := by
  rw [← has_grid_iff hd]
  unfold onGrid? at hc
  simp only at hc
  split at hc <;> rename_i h1 h2
  · simp only [Option.some.injEq] at hc
    split at hc <;> subst hc
    · exact h1
    · exact h2
  · simp only [Option.some.injEq] at hc
    subst hc
    exact h1
  · simp only [Option.some.injEq] at hc
    subst hc
    exact h2
  · cases hc

/-- One of the two neighbours on a grid that is finer than the interval is wide lies in it. -/
theorem Halo.onGrid?_isSome {h : Halo} (hd : 0 < h.den) {step : ℤ}
    (hlow : (h.low : ℚ) / h.den < h.mid / h.den) (hhigh : (h.mid : ℚ) / h.den < h.high / h.den)
    (hfine : (10 : ℚ) ^ step < h.high / h.den - h.low / h.den) :
    (h.onGrid? step).isSome = true := by
  have hpos : (0 : ℚ) < 10 ^ step := by positivity
  set base := h.mid * 10 ^ (-step).toNat / (h.den * 10 ^ step.toNat) with hbase
  have hquot : ((h.mid : ℚ) / h.den) / 10 ^ step =
      ((h.mid * 10 ^ (-step).toNat : ℕ) : ℚ) / ((h.den * 10 ^ step.toNat : ℕ) : ℚ) := by
    have hd' : (h.den : ℚ) ≠ 0 := by exact_mod_cast hd.ne'
    push_cast
    rcases le_total 0 step with hs | hs
    · rw [show (-step).toNat = 0 by omega, pow_zero, mul_one, ← zpow_natCast (10 : ℚ),
        Int.toNat_of_nonneg hs, div_div]
    · rw [show step.toNat = 0 by omega, pow_zero, mul_one, ← zpow_natCast (10 : ℚ),
        Int.toNat_of_nonneg (by omega), zpow_neg]
      field_simp
  have hfloor : (base : ℚ) ≤ ((h.mid : ℚ) / h.den) / 10 ^ step ∧
      ((h.mid : ℚ) / h.den) / 10 ^ step < base + 1 := by
    have hpos' : (0 : ℚ) < ((h.den * 10 ^ step.toNat : ℕ) : ℚ) := by
      exact_mod_cast Nat.mul_pos hd (by positivity)
    rw [hquot, le_div_iff₀ hpos', div_lt_iff₀ hpos', hbase]
    constructor
    · exact_mod_cast Nat.div_mul_le_self _ _
    · exact_mod_cast (Nat.div_lt_iff_lt_mul (by exact_mod_cast hpos')).1 (Nat.lt_succ_self _)
  rw [le_div_iff₀ hpos, div_lt_iff₀ hpos] at hfloor
  obtain ⟨hf1, hf2⟩ := hfloor
  have hhit : h.has (base * 10 ^ step.toNat) (10 ^ (-step).toNat) = true ∨
      h.has ((base + 1) * 10 ^ step.toNat) (10 ^ (-step).toNat) = true := by
    rw [has_grid_iff hd, has_grid_iff hd]
    push_cast
    by_cases hb : (h.low : ℚ) / h.den < base * 10 ^ step
    · exact .inl (holds_of_between hb (by linarith))
    · exact .inr (holds_of_between (by linarith) (by linarith))
  unfold onGrid?
  simp only [← hbase]
  rcases hhit with hh | hh <;> rw [hh] <;> split <;> simp_all

theorem Halo.ten_zpow_top_le {h : Halo} (hd : 0 < h.den) (hm : 0 < h.mid)
    (hsmall : (h.mid : ℚ) / h.den ≤ 2 ^ (2000 : ℤ)) :
    (10 : ℚ) ^ (h.top - 1) ≤ h.mid / h.den := by
  have hd' : (0 : ℚ) < h.den := by exact_mod_cast hd
  set above : ℤ → Bool := fun e =>
    if e < 0 then h.mid * 10 ^ (-e).toNat < h.den else h.mid < h.den * 10 ^ e.toNat with habove
  have hnot (e : ℤ) (he : above e = false) : (10 : ℚ) ^ e ≤ h.mid / h.den := by
    rw [le_div_iff₀ hd']
    simp only [habove] at he
    split at he
    · rename_i hneg
      have h1 : (h.den : ℚ) ≤ h.mid * 10 ^ (-e).toNat := by
        exact_mod_cast not_lt.1 (by simpa using he)
      have h2 : (10 : ℚ) ^ e * 10 ^ (-e).toNat = 1 := by
        rw [← zpow_natCast, Int.toNat_of_nonneg (by omega), ← zpow_add₀ (by norm_num),
          add_neg_cancel, zpow_zero]
      calc (10 : ℚ) ^ e * h.den ≤ 10 ^ e * (h.mid * 10 ^ (-e).toNat) :=
            mul_le_mul_of_nonneg_left h1 (by positivity)
        _ = h.mid * (10 ^ e * 10 ^ (-e).toNat) := by ring
        _ = h.mid := by rw [h2, mul_one]
    · rename_i hnonneg
      have h1 : (h.den : ℚ) * 10 ^ e.toNat ≤ h.mid := by
        exact_mod_cast not_lt.1 (by simpa using he)
      rw [← zpow_natCast, Int.toNat_of_nonneg (by omega)] at h1
      linarith
  obtain ⟨h1, -⟩ := log2_ratio hm hd
  set guess : ℤ := ((Nat.log2 h.mid : ℤ) - (Nat.log2 h.den : ℤ)) * 30103 / 100000 with hguess
  have hd2000 : (Nat.log2 h.mid : ℤ) - Nat.log2 h.den - 1 < 2000 :=
    (zpow_lt_zpow_iff_right₀ (by norm_num : (1 : ℚ) < 2)).1 (h1.trans_le hsmall)
  have htop : h.top = if above (guess - 1) then guess - 1 else if above guess then guess
      else if above (guess + 1) then guess + 1 else guess + 2 := rfl
  rw [htop]
  split_ifs with a1 a2 a3
  · refine le_trans (ten_zpow_le_two_zpow ?_ ?_) h1.le <;> omega
  · exact hnot _ (by simpa using a1)
  · rw [add_sub_cancel_right]
    exact hnot _ (by simpa using a2)
  · rw [show guess + 2 - 1 = guess + 1 by ring]
    exact hnot _ (by simpa using a3)

/-- The search ends on a grid with a hit, if there is one among those that are looked at. -/
theorem Halo.search_spec {h : Halo} (hd : 0 < h.den) (fuel n k : ℕ) (hn : n ≤ k)
    (hk : k < n + fuel) (hit : (h.onGrid? (h.top - k)).isSome = true) :
    h.Holds (((h.search fuel n).1 : ℚ) * 10 ^ (h.search fuel n).2) ∧
      h.top - k ≤ (h.search fuel n).2 := by
  induction fuel generalizing n with
  | zero => omega
  | succ fuel ih =>
    unfold search
    cases hc : h.onGrid? (h.top - n) with
    | some c =>
      simp only [hc]
      exact ⟨holds_of_onGrid? hd hc, by omega⟩
    | none =>
      simp only [hc]
      have hne : n ≠ k := by
        rintro rfl
        simp [hc] at hit
      exact ih (n + 1) (by omega) (by omega)

/-- The sixteenth part in powers of ten of a number is less than its interval is wide. -/
theorem grid_lt_width {m u b t : ℚ} (hu : 0 < u) (hm : m ≤ 2 ^ 53) (ht : t ≤ m * u)
    (hb : b = 2 ∨ b = 1 ∧ m = 2 ^ 52) :
    t / 10 ^ 16 < (m + 1 / 2) * u - (m - b / 4) * u := by
  rw [div_lt_iff₀ (by norm_num), show (m + 1 / 2) * u - (m - b / 4) * u = (1 / 2 + b / 4) * u by ring]
  refine ht.trans_lt ?_
  rcases hb with rfl | ⟨rfl, rfl⟩
  · have h : m * u ≤ 2 ^ 53 * u := mul_le_mul_of_nonneg_right hm hu.le
    linarith
  · linarith

theorem middle_inside {m u b : ℚ} (hu : 0 < u) (hb : b = 2 ∨ b = 1) :
    (m - b / 4) * u < m * u ∧ m * u < (m + 1 / 2) * u := by
  refine ⟨mul_lt_mul_of_pos_right ?_ hu, mul_lt_mul_of_pos_right (by linarith) hu⟩
  rcases hb with rfl | rfl <;> linarith

theorem reach_cast (x : Binary64) :
    (x.reach : ℚ) = 2 ∨ (x.reach : ℚ) = 1 ∧ (x.significand : ℚ) = 2 ^ 52 := by
  rcases x.reach_cases with h | ⟨h1, h2⟩
  · exact .inl (by rw [h]; norm_num)
  · exact .inr ⟨by rw [h1]; norm_num, by rw [h2]; norm_num⟩

theorem halo_mid_le (x : Binary64) : (x.halo.mid : ℚ) / x.halo.den ≤ 2 ^ (1026 : ℤ) := by
  refine le_trans ?_ x.halo_high_le
  rw [halo_mid, halo_high]
  exact mul_le_mul_of_nonneg_right (by linarith) x.ulp_pos.le

theorem halo_mid_pos {x : Binary64} (hm : 0 < x.significand) : 0 < x.halo.mid :=
  Nat.mul_pos (Nat.mul_pos (by norm_num) hm) (by positivity)

theorem halo_den_pos (x : Binary64) : 0 < x.halo.den := Nat.pow_pos (by norm_num)

/-- Seventeen digits are enough: their grid is finer than any interval is wide. -/
theorem search_holds {x : Binary64} (hm : 0 < x.significand) :
    x.halo.Holds (((x.halo.search 17 1).1 : ℚ) * 10 ^ (x.halo.search 17 1).2) ∧
      x.halo.top - 17 ≤ (x.halo.search 17 1).2 := by
  have hd := x.halo_den_pos
  have hmax : (x.significand : ℚ) ≤ 2 ^ 53 := by exact_mod_cast x.significand_lt.le
  have hin := middle_inside (m := x.significand) x.ulp_pos (x.reach_cast.imp id And.left)
  have htop : (10 : ℚ) ^ (x.halo.top - 1) ≤ x.significand * x.ulp := by
    rw [← halo_mid]
    refine Halo.ten_zpow_top_le hd (halo_mid_pos hm) (x.halo_mid_le.trans ?_)
    exact zpow_le_zpow_right₀ (by norm_num) (by norm_num)
  have hstep : (10 : ℚ) ^ (x.halo.top - (17 : ℕ)) = 10 ^ (x.halo.top - 1) / 10 ^ 16 := by
    rw [show x.halo.top - (17 : ℕ) = x.halo.top - 1 - (16 : ℕ) by push_cast; ring,
      zpow_sub₀ (by norm_num), zpow_natCast]
  refine Halo.search_spec hd 17 1 17 (by omega) (by omega) (Halo.onGrid?_isSome hd ?_ ?_ ?_)
  · rw [halo_low hm, halo_mid]
    exact hin.1
  · rw [halo_mid, halo_high]
    exact hin.2
  · rw [hstep, halo_low hm, halo_high]
    exact grid_lt_width x.ulp_pos hmax htop x.reach_cast

end FlexForm.Binary64
