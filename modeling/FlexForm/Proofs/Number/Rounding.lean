import FlexForm.Number.Shortest
import Mathlib.Algebra.Order.Field.Power
import Mathlib.Data.Rat.Cast.Order
import Mathlib.Tactic

/-! # Rounding to the nearest number

Every finite number owns an interval of rationals (`Halo.Holds`), and each rational of it is rounded
to that number. All statements are over `ℚ`: the quotient `num / den` is what counts, not the pair.

* `roundDiv_eq_of_near`: the nearest integer, a tie going to the even one.
* `ofRatio_of_holds`: rounding a quotient of the interval gives the number back.
* `isNaN_ofDecimal`: no decimal is rounded to a NaN.
-/

namespace FlexForm.Binary64
set_option autoImplicit false

/-! ## The parts of a number -/

theorem bits_lt (x : Binary64) : x.bits.toNat < 2 ^ 64 := x.bits.toNat_lt

theorem fractionBits_lt (x : Binary64) : x.fractionBits < 2 ^ 52 :=
  Nat.mod_lt _ (by norm_num)

theorem exponentBits_lt (x : Binary64) : x.exponentBits < 2 ^ 11 :=
  Nat.mod_lt _ (by norm_num)

/-- The bits without the sign. -/
def unsignedBits (x : Binary64) : ℕ := x.exponentBits * 2 ^ 52 + x.fractionBits

theorem ofParts_unsignedBits (x : Binary64) : ofParts x.isNegative x.unsignedBits = x := by
  have hlt := x.bits_lt
  have hbits : (if x.isNegative then 2 ^ 63 + x.unsignedBits else x.unsignedBits) =
      x.bits.toNat := by
    unfold unsignedBits exponentBits fractionBits isNegative
    by_cases h : x.bits.toNat ≥ 2 ^ 63 <;> simp only [h, decide_true, decide_false, if_true,
      if_false, Bool.false_eq_true] <;> omega
  unfold ofParts
  rw [hbits, UInt64.ofNat_toNat]

theorem unsignedBits_eq (x : Binary64) : x.unsignedBits = x.shift * 2 ^ 52 + x.significand := by
  unfold unsignedBits shift significand
  by_cases h : x.exponentBits = 0
  · simp [h]
  · simp only [beq_iff_eq, h, if_false]
    omega

theorem unsignedBits_lt {x : Binary64} (h : x.isFinite = true) :
    x.unsignedBits < 2047 * 2 ^ 52 := by
  have he := x.exponentBits_lt
  have hf := x.fractionBits_lt
  have hne : x.exponentBits ≠ 2047 := by simpa [isFinite] using h
  unfold unsignedBits
  omega

theorem significand_lt (x : Binary64) : x.significand < 2 ^ 53 := by
  have hf := x.fractionBits_lt
  unfold significand
  split <;> omega

theorem le_significand_of_shift_pos {x : Binary64} (h : 0 < x.shift) :
    2 ^ 52 ≤ x.significand := by
  unfold shift at h
  unfold significand
  rw [if_neg (by simp; omega)]
  omega

theorem shift_lt (x : Binary64) : x.shift < 2 ^ 11 := by
  have he := x.exponentBits_lt
  unfold shift
  omega

/-- A number whose lower neighbour is only half as far away has the least significand of its
exponent, and another exponent below it. -/
theorem halo_below (x : Binary64) :
    (x.fractionBits == 0 && decide (x.exponentBits > 1)) = true ↔
      x.significand = 2 ^ 52 ∧ 0 < x.shift := by
  have hf := x.fractionBits_lt
  unfold significand shift
  by_cases h : x.exponentBits = 0
  · simp [h]
  · simp only [Bool.and_eq_true, beq_iff_eq, decide_eq_true_eq, h, if_false]
    omega

/-! ## The interval of a number -/

/-- Whether a rational lies in the interval, ends included when it is closed. -/
def Halo.Holds (h : Halo) (r : ℚ) : Prop :=
  if h.closed then (h.low : ℚ) / h.den ≤ r ∧ r ≤ h.high / h.den
  else (h.low : ℚ) / h.den < r ∧ r < h.high / h.den

theorem Halo.has_iff {h : Halo} (hd : 0 < h.den) (num : ℕ) {den : ℕ} (hden : 0 < den) :
    h.has num den = true ↔ h.Holds ((num : ℚ) / den) := by
  have h1 : (0 : ℚ) < h.den := by exact_mod_cast hd
  have h2 : (0 : ℚ) < den := by exact_mod_cast hden
  unfold has Holds
  cases h.closed
  · simp only [Bool.false_eq_true, if_false, Bool.and_eq_true, decide_eq_true_eq]
    rw [div_lt_div_iff₀ h1 h2, div_lt_div_iff₀ h2 h1]
    norm_cast
  · simp only [if_true, Bool.and_eq_true, decide_eq_true_eq]
    rw [div_le_div_iff₀ h1 h2, div_le_div_iff₀ h2 h1]
    norm_cast

theorem Halo.Holds.bounds {h : Halo} {r : ℚ} (hr : h.Holds r) :
    (h.low : ℚ) / h.den ≤ r ∧ r ≤ h.high / h.den := by
  unfold Holds at hr
  split at hr
  · exact hr
  · exact ⟨hr.1.le, hr.2.le⟩

theorem Halo.holds_of_between {h : Halo} {r : ℚ} (hlow : (h.low : ℚ) / h.den < r)
    (hhigh : r < h.high / h.den) : h.Holds r := by
  unfold Holds
  split
  · exact ⟨hlow.le, hhigh.le⟩
  · exact ⟨hlow, hhigh⟩

/-! ## Rounding to an integer -/

/-- A quotient within half a unit of `m` is rounded to `m`; on the edge `m` has to be even. -/
theorem roundDiv_eq {num den m : ℕ} (hd : 0 < den) (hlow : 2 * (m * den) ≤ 2 * num + den)
    (hhigh : 2 * num ≤ 2 * (m * den) + den)
    (htie : m % 2 = 0 ∨ 2 * (m * den) < 2 * num + den ∧ 2 * num < 2 * (m * den) + den) :
    roundDiv num den = m := by
  have hq : num = den * (num / den) + num % den := (Nat.div_add_mod num den).symm
  have hr : num % den < den := Nat.mod_lt num hd
  unfold roundDiv
  generalize num / den = q at hq ⊢
  generalize num % den = r at hq hr ⊢
  have hcases : m = q ∨ m = q + 1 := by
    have h1 : m < q + 2 := by
      by_contra hge
      have : (q + 2) * den ≤ m * den := Nat.mul_le_mul_right den (by omega)
      nlinarith
    have h2 : q ≤ m := by
      by_contra hlt
      have : (m + 1) * den ≤ q * den := Nat.mul_le_mul_right den (by omega)
      nlinarith
    omega
  rcases hcases with rfl | rfl
  · have h1 : 2 * r ≤ den := by nlinarith
    have h2 : m % 2 = 0 ∨ 2 * r < den := htie.imp_right fun h => by nlinarith
    simp only [beq_iff_eq]
    split_ifs <;> omega
  · have h1 : den ≤ 2 * r := by nlinarith
    have h2 : (q + 1) % 2 = 0 ∨ den < 2 * r := htie.imp_right fun h => by nlinarith
    simp only [beq_iff_eq]
    split_ifs <;> omega

/-- The same over the rationals. -/
theorem roundDiv_eq_of_near {num den m : ℕ} (hd : 0 < den)
    (hlow : (m : ℚ) - 1 / 2 ≤ (num : ℚ) / den) (hhigh : (num : ℚ) / den ≤ m + 1 / 2)
    (htie : m % 2 = 0 ∨ (m : ℚ) - 1 / 2 < (num : ℚ) / den ∧ (num : ℚ) / den < m + 1 / 2) :
    roundDiv num den = m := by
  have hd' : (0 : ℚ) < den := by exact_mod_cast hd
  rw [le_div_iff₀ hd'] at hlow
  rw [div_le_iff₀ hd'] at hhigh
  rw [lt_div_iff₀ hd', div_lt_iff₀ hd'] at htie
  refine roundDiv_eq hd ?_ ?_ (htie.imp_right fun h => ⟨?_, ?_⟩)
  · have : (2 * (m * den) : ℚ) ≤ 2 * num + den := by linarith
    exact_mod_cast this
  · have : (2 * num : ℚ) ≤ 2 * (m * den) + den := by linarith
    exact_mod_cast this
  · have : (2 * (m * den) : ℚ) < 2 * num + den := by linarith [h.1]
    exact_mod_cast this
  · have : (2 * num : ℚ) < 2 * (m * den) + den := by linarith [h.2]
    exact_mod_cast this

/-! ## Rounding a quotient -/

/-- A quotient divided by a power of two, again as a quotient. -/
def scaledPair (num den : ℕ) (e : ℤ) : ℕ × ℕ :=
  if e < 0 then (num * 2 ^ (-e).toNat, den) else (num, den * 2 ^ e.toNat)

theorem scaledPair_den_pos {den : ℕ} (num : ℕ) (e : ℤ) (hd : 0 < den) :
    0 < (scaledPair num den e).2 := by
  unfold scaledPair
  split <;> simp [hd]

theorem scaledPair_div (num : ℕ) {den : ℕ} (e : ℤ) (hd : 0 < den) :
    ((scaledPair num den e).1 : ℚ) / (scaledPair num den e).2 = (num : ℚ) / den / 2 ^ e := by
  have hd' : (den : ℚ) ≠ 0 := by exact_mod_cast hd.ne'
  unfold scaledPair
  split
  · rename_i h
    have he : (2 : ℚ) ^ e = ((2 : ℚ) ^ (-e).toNat)⁻¹ := by
      rw [← zpow_natCast, ← zpow_neg, Int.toNat_of_nonneg (by omega), neg_neg]
    rw [he]
    push_cast
    field_simp
  · rename_i h
    have he : (2 : ℚ) ^ e = (2 : ℚ) ^ e.toNat := by
      rw [← zpow_natCast, Int.toNat_of_nonneg (by omega)]
    rw [he]
    push_cast
    field_simp

/-- The exponent of two on whose grid a quotient has 53 binary digits or one more. -/
def gridGuess (num den : ℕ) : ℤ := (Nat.log2 num : ℤ) - (Nat.log2 den : ℤ) - 52

/-- The exponent of two on whose grid a quotient is rounded. -/
def gridExponent (num den : ℕ) : ℤ :=
  max (if (scaledPair num den (gridGuess num den)).1 / (scaledPair num den (gridGuess num den)).2 <
    2 ^ 52 then gridGuess num den - 1 else gridGuess num den) (-1074)

theorem ofRatio_eq (negative : Bool) {num : ℕ} (den : ℕ) (hn : num ≠ 0) :
    ofRatio negative num den =
      let pair := scaledPair num den (gridExponent num den)
      let rest := (gridExponent num den + 1074).toNat * 2 ^ 52 + roundDiv pair.1 pair.2
      if rest ≥ 2047 * 2 ^ 52 then infinity negative else ofParts negative rest := by
  unfold ofRatio
  rw [if_neg (by simpa using hn)]
  rfl

theorem log2_ratio {num den : ℕ} (hn : 0 < num) (hd : 0 < den) :
    (2 : ℚ) ^ ((Nat.log2 num : ℤ) - Nat.log2 den - 1) < (num : ℚ) / den ∧
      (num : ℚ) / den < 2 ^ ((Nat.log2 num : ℤ) - Nat.log2 den + 1) := by
  have hd' : (0 : ℚ) < den := by exact_mod_cast hd
  have n1 : (2 : ℚ) ^ (Nat.log2 num) ≤ num := by exact_mod_cast Nat.log2_self_le hn.ne'
  have n2 : (num : ℚ) < 2 ^ (Nat.log2 num + 1) := by exact_mod_cast Nat.lt_log2_self
  have d1 : (2 : ℚ) ^ (Nat.log2 den) ≤ den := by exact_mod_cast Nat.log2_self_le hd.ne'
  have d2 : (den : ℚ) < 2 ^ (Nat.log2 den + 1) := by exact_mod_cast Nat.lt_log2_self
  have hpos : (0 : ℚ) < 2 ^ (Nat.log2 den) := by positivity
  constructor
  · rw [lt_div_iff₀ hd', show (Nat.log2 num : ℤ) - Nat.log2 den - 1 =
      (Nat.log2 num : ℤ) - ((Nat.log2 den + 1 : ℕ) : ℤ) by push_cast; ring,
      zpow_sub₀ (by norm_num), zpow_natCast, zpow_natCast, div_mul_eq_mul_div,
      div_lt_iff₀ (by positivity)]
    exact mul_lt_mul' n1 d2 hd'.le (lt_of_lt_of_le (by positivity) n1)
  · rw [div_lt_iff₀ hd', show (Nat.log2 num : ℤ) - Nat.log2 den + 1 =
      ((Nat.log2 num + 1 : ℕ) : ℤ) - (Nat.log2 den : ℤ) by push_cast; ring,
      zpow_sub₀ (by norm_num), zpow_natCast, zpow_natCast, div_mul_eq_mul_div,
      lt_div_iff₀ hpos]
    exact mul_lt_mul n2 d1 hpos (by positivity)

/-- The grid is the one on which the quotient has 53 binary digits, or the finest there is. -/
theorem gridExponent_spec {num den : ℕ} (hn : 0 < num) (hd : 0 < den) :
    ∃ e : ℤ, gridExponent num den = max e (-1074) ∧
      (2 : ℚ) ^ (e + 52) ≤ (num : ℚ) / den ∧ (num : ℚ) / den < 2 ^ (e + 53) := by
  obtain ⟨h1, h2⟩ := log2_ratio hn hd
  unfold gridExponent
  have hguess : gridGuess num den = (Nat.log2 num : ℤ) - (Nat.log2 den : ℤ) - 52 := rfl
  generalize gridGuess num den = guess at hguess ⊢
  have hpos := scaledPair_den_pos num guess hd
  have hpow : (0 : ℚ) < 2 ^ guess := by positivity
  have hsplit : (2 : ℚ) ^ (guess + 52) = 2 ^ 52 * 2 ^ guess := by
    rw [zpow_add₀ (by norm_num), mul_comm]
    norm_num
  have hiff : (scaledPair num den guess).1 / (scaledPair num den guess).2 < 2 ^ 52 ↔
      (num : ℚ) / den < 2 ^ (guess + 52) := by
    rw [Nat.div_lt_iff_lt_mul hpos, hsplit, ← div_lt_iff₀ hpow, ← scaledPair_div num guess hd,
      div_lt_iff₀ (by exact_mod_cast hpos)]
    norm_cast
  by_cases hlt : (scaledPair num den guess).1 / (scaledPair num den guess).2 < 2 ^ 52
  · refine ⟨guess - 1, by rw [if_pos hlt], ?_, ?_⟩
    · rw [show guess - 1 + 52 = (Nat.log2 num : ℤ) - Nat.log2 den - 1 by omega]
      exact h1.le
    · rw [show guess - 1 + 53 = guess + 52 by ring]
      exact hiff.1 hlt
  · refine ⟨guess, by rw [if_neg hlt], not_lt.1 fun h => hlt (hiff.2 h), ?_⟩
    rw [show guess + 53 = (Nat.log2 num : ℤ) - Nat.log2 den + 1 by omega]
    exact h2

/-! ## The numbers of an interval are rounded to its owner -/

/-- The distance of the neighbours of a number. -/
def ulp (x : Binary64) : ℚ := 2 ^ ((x.shift : ℤ) - 1074)

theorem ulp_pos (x : Binary64) : 0 < x.ulp := by
  unfold ulp
  positivity

theorem halo_den (x : Binary64) : x.halo.den = 2 ^ 1076 := by
  simp only [halo]

theorem unit_div (x : Binary64) (k : ℚ) :
    k * 2 ^ x.shift / ((2 ^ 1076 : ℕ) : ℚ) = k / 4 * x.ulp := by
  have hden : ((2 ^ 1076 : ℕ) : ℚ) = 2 ^ 1074 * 4 := by
    rw [Nat.cast_pow, show (1076 : ℕ) = 1074 + 2 from rfl, pow_add]
    norm_num only
  have hulp : x.ulp = 2 ^ x.shift / 2 ^ 1074 := by
    unfold ulp
    rw [zpow_sub₀ (by norm_num), zpow_natCast, show (1074 : ℤ) = ((1074 : ℕ) : ℤ) from rfl,
      zpow_natCast]
  have hne : (2 : ℚ) ^ 1074 ≠ 0 := by positivity
  rw [hden, hulp]
  generalize (2 : ℚ) ^ 1074 = p at hne ⊢
  field_simp

/-- How far the interval reaches down, in quarters of the distance of the neighbours. -/
def reach (x : Binary64) : ℕ := if x.fractionBits == 0 && x.exponentBits > 1 then 1 else 2

theorem reach_eq_one {x : Binary64} (hm : x.significand = 2 ^ 52) (hs : 0 < x.shift) :
    x.reach = 1 := by
  unfold reach
  rw [if_pos ((halo_below x).2 ⟨hm, hs⟩)]

theorem reach_cases (x : Binary64) : x.reach = 2 ∨ x.reach = 1 ∧ x.significand = 2 ^ 52 := by
  unfold reach
  split
  · rename_i h
    exact .inr ⟨rfl, ((halo_below x).1 h).1⟩
  · exact .inl rfl

theorem halo_low {x : Binary64} (hm : 0 < x.significand) :
    (x.halo.low : ℚ) / x.halo.den = (x.significand - x.reach / 4) * x.ulp := by
  have hle : x.reach ≤ 4 * x.significand := by
    rcases x.reach_cases with h | ⟨h, -⟩ <;> omega
  have hlow : (x.halo.low : ℚ) = (4 * x.significand - x.reach) * 2 ^ x.shift := by
    change (((4 * x.significand - x.reach) * 2 ^ x.shift : ℕ) : ℚ) = _
    push_cast [Nat.cast_sub hle]
    ring
  rw [hlow, halo_den, unit_div]
  ring

theorem halo_high (x : Binary64) :
    (x.halo.high : ℚ) / x.halo.den = (x.significand + 1 / 2) * x.ulp := by
  have hhigh : (x.halo.high : ℚ) = (4 * x.significand + 2) * 2 ^ x.shift := by
    change (((4 * x.significand + 2) * 2 ^ x.shift : ℕ) : ℚ) = _
    push_cast
    ring
  rw [hhigh, halo_den, unit_div]
  ring

theorem halo_mid (x : Binary64) :
    (x.halo.mid : ℚ) / x.halo.den = x.significand * x.ulp := by
  have hmid : (x.halo.mid : ℚ) = (4 * x.significand) * 2 ^ x.shift := by
    change ((4 * x.significand * 2 ^ x.shift : ℕ) : ℚ) = _
    push_cast
    ring
  rw [hmid, halo_den, unit_div]
  ring

theorem halo_closed (x : Binary64) : x.halo.closed = (x.significand % 2 == 0) := rfl

theorem Halo.Holds.near {x : Binary64} {r : ℚ} (hm : 0 < x.significand) (hr : x.halo.Holds r) :
    (x.significand : ℚ) - x.reach / 4 ≤ r / x.ulp ∧ r / x.ulp ≤ x.significand + 1 / 2 ∧
      (x.significand % 2 = 0 ∨
        (x.significand : ℚ) - x.reach / 4 < r / x.ulp ∧ r / x.ulp < x.significand + 1 / 2) := by
  have hpos := x.ulp_pos
  obtain ⟨h1, h2⟩ := hr.bounds
  rw [halo_low hm] at h1
  rw [halo_high] at h2
  refine ⟨(le_div_iff₀ hpos).2 h1, (div_le_iff₀ hpos).2 h2, ?_⟩
  unfold Halo.Holds at hr
  rw [halo_closed, halo_low hm, halo_high] at hr
  by_cases heven : x.significand % 2 = 0
  · exact .inl heven
  · rw [if_neg (by simpa using heven)] at hr
    exact .inr ⟨(lt_div_iff₀ hpos).2 hr.1, (div_lt_iff₀ hpos).2 hr.2⟩

theorem reach_le (x : Binary64) : (x.reach : ℚ) ≤ 2 := by
  rcases x.reach_cases with h | ⟨h, -⟩ <;> rw [h] <;> norm_num

/-! ### Exponents of two, counted from the distance of the neighbours -/

section
variable {x : Binary64} {q : ℚ} {e : ℤ}

theorem two_pow_le_div_ulp_iff (k : ℕ) :
    (2 : ℚ) ^ k ≤ q / x.ulp ↔ 2 ^ ((x.shift : ℤ) - 1074 + k) ≤ q := by
  rw [le_div_iff₀ x.ulp_pos, ulp, zpow_add₀ (by norm_num), zpow_natCast, mul_comm]

theorem div_ulp_lt_two_pow_iff (k : ℕ) :
    q / x.ulp < 2 ^ k ↔ q < 2 ^ ((x.shift : ℤ) - 1074 + k) := by
  rw [← not_le, two_pow_le_div_ulp_iff, not_le]

theorem exponent_lt_of_div_ulp_lt (hlow : (2 : ℚ) ^ (e + 52) ≤ q) {k : ℕ}
    (h : q / x.ulp < 2 ^ k) : e + 52 < (x.shift : ℤ) - 1074 + k :=
  (zpow_lt_zpow_iff_right₀ (by norm_num : (1 : ℚ) < 2)).1
    (hlow.trans_lt ((div_ulp_lt_two_pow_iff k).1 h))

theorem lt_exponent_of_le_div_ulp (hhigh : q < (2 : ℚ) ^ (e + 53)) {k : ℕ}
    (h : 2 ^ k ≤ q / x.ulp) : (x.shift : ℤ) - 1074 + k < e + 53 :=
  (zpow_lt_zpow_iff_right₀ (by norm_num : (1 : ℚ) < 2)).1
    (((two_pow_le_div_ulp_iff k).1 h).trans_lt hhigh)

theorem Halo.Holds.div_ulp_lt (hm : 0 < x.significand) (hr : x.halo.Holds q) :
    q / x.ulp < 2 ^ 53 := by
  have hlt : (x.significand : ℚ) + 1 ≤ 2 ^ 53 := by exact_mod_cast x.significand_lt
  linarith [(hr.near hm).2.1]

/-- Only at the least significand of an exponent does the interval reach below that exponent, and
then by less than one binary digit. -/
theorem Halo.Holds.significand_of_div_ulp_lt (hs : 0 < x.shift) (hr : x.halo.Holds q)
    (hcut : q / x.ulp < 2 ^ 52) : x.significand = 2 ^ 52 ∧ 2 ^ 51 ≤ q / x.ulp := by
  have hms := le_significand_of_shift_pos hs
  have hlow := (hr.near (lt_of_lt_of_le (by norm_num) hms)).1
  have hmeq : x.significand = 2 ^ 52 := by
    by_contra hne
    have hnext : (2 : ℚ) ^ 52 + 1 ≤ x.significand := by
      exact_mod_cast (by omega : 2 ^ 52 + 1 ≤ x.significand)
    linarith [x.reach_le]
  refine ⟨hmeq, ?_⟩
  rw [hmeq, reach_eq_one hmeq hs] at hlow
  push_cast at hlow
  linarith

end

/-- The grid on which a rational of the interval is rounded: that of the number, unless the
rational lies below the least significand of its exponent. -/
theorem gridExponent_of_holds {x : Binary64} {num den : ℕ} (hm : 0 < x.significand) (hn : 0 < num)
    (hd : 0 < den) (hr : x.halo.Holds ((num : ℚ) / den)) :
    gridExponent num den = (x.shift : ℤ) - 1074 ∨
      gridExponent num den = (x.shift : ℤ) - 1075 ∧ x.significand = 2 ^ 52 ∧ 0 < x.shift ∧
        (num : ℚ) / den / x.ulp < 2 ^ 52 := by
  obtain ⟨e, he, hlow, hhigh⟩ := gridExponent_spec hn hd
  have hup := exponent_lt_of_div_ulp_lt hlow (hr.div_ulp_lt hm)
  by_cases hs : x.shift = 0
  · left
    omega
  by_cases hcut : (num : ℚ) / den / x.ulp < 2 ^ 52
  · obtain ⟨hmeq, hhalf⟩ := hr.significand_of_div_ulp_lt (Nat.pos_of_ne_zero hs) hcut
    have hlt := exponent_lt_of_div_ulp_lt hlow hcut
    have hge := lt_exponent_of_le_div_ulp hhigh hhalf
    exact .inr ⟨by omega, hmeq, Nat.pos_of_ne_zero hs, hcut⟩
  · have hge := lt_exponent_of_le_div_ulp hhigh (not_lt.1 hcut)
    left
    omega

/-- A quotient in the interval of a number is rounded to that number. -/
theorem ofRatio_of_holds {x : Binary64} {num den : ℕ} (hx : x.isFinite = true)
    (hm : 0 < x.significand) (hn : 0 < num) (hd : 0 < den)
    (hr : x.halo.Holds ((num : ℚ) / den)) : ofRatio x.isNegative num den = x := by
  have hlt := unsignedBits_lt hx
  have hbits := x.unsignedBits_eq
  obtain ⟨n1, n2, n3⟩ := hr.near hm
  have hreach := x.reach_le
  have hround (e : ℤ) : ((scaledPair num den e).1 : ℚ) / (scaledPair num den e).2 =
      (num : ℚ) / den / 2 ^ e := scaledPair_div num e hd
  suffices h : (gridExponent num den + 1074).toNat * 2 ^ 52 +
      roundDiv (scaledPair num den (gridExponent num den)).1
        (scaledPair num den (gridExponent num den)).2 = x.unsignedBits by
    rw [ofRatio_eq _ _ hn.ne']
    simp only
    rw [h, if_neg (by omega), ofParts_unsignedBits]
  rcases gridExponent_of_holds hm hn hd hr with he | ⟨he, hmeq, hs, hcut⟩
  · rw [he, roundDiv_eq_of_near (m := x.significand) (scaledPair_den_pos num _ hd), hbits,
      show ((x.shift : ℤ) - 1074 + 1074).toNat = x.shift by omega]
    · rw [hround]
      exact le_trans (by linarith) n1
    · rw [hround]
      exact n2
    · rw [hround]
      exact n3.imp_right fun h => ⟨lt_of_le_of_lt (by linarith) h.1, h.2⟩
  · have hhalf : (num : ℚ) / den / 2 ^ ((x.shift : ℤ) - 1075) = 2 * ((num : ℚ) / den / x.ulp) := by
      unfold ulp
      rw [show (x.shift : ℤ) - 1074 = (x.shift : ℤ) - 1075 + 1 by ring,
        zpow_add₀ (by norm_num : (2 : ℚ) ≠ 0)]
      field_simp
    rw [hmeq, reach_eq_one hmeq hs] at n1
    push_cast at n1
    rw [he, roundDiv_eq_of_near (m := 2 ^ 53) (scaledPair_den_pos num _ hd), hbits, hmeq,
      show ((x.shift : ℤ) - 1075 + 1074).toNat = x.shift - 1 by omega]
    · omega
    · rw [hround, hhalf]
      push_cast
      linarith
    · rw [hround, hhalf]
      push_cast
      linarith
    · exact .inl (by norm_num)

/-! ## Rounding gives a number -/

theorem isFinite_ofParts (negative : Bool) {rest : ℕ} (h : rest < 2047 * 2 ^ 52) :
    (ofParts negative rest).isFinite = true := by
  have hbits : (ofParts negative rest).bits.toNat =
      if negative then 2 ^ 63 + rest else rest := by
    unfold ofParts
    rw [UInt64.toNat_ofNat']
    apply Nat.mod_eq_of_lt
    split <;> omega
  have hexponent : (ofParts negative rest).exponentBits = rest / 2 ^ 52 := by
    unfold exponentBits
    rw [hbits]
    split <;> omega
  rw [isFinite, hexponent, bne_iff_ne]
  omega

theorem isNaN_infinity (negative : Bool) : (infinity negative).isNaN = false := by
  cases negative <;> decide

theorem isNaN_zero (negative : Bool) : (zero negative).isNaN = false :=
  isNaN_eq_false_of_isFinite (isFinite_ofParts negative (by norm_num))

theorem isNaN_ofRatio (negative : Bool) (num den : ℕ) :
    (ofRatio negative num den).isNaN = false := by
  by_cases hn : num = 0
  · rw [hn]
    exact isNaN_zero negative
  · rw [ofRatio_eq negative den hn]
    simp only
    split
    · exact isNaN_infinity negative
    · exact isNaN_eq_false_of_isFinite (isFinite_ofParts negative (by omega))

theorem isNaN_ofDecimal (negative : Bool) (digits : ℕ) (exponent : ℤ) :
    (ofDecimal negative digits exponent).isNaN = false := by
  unfold ofDecimal
  simp only
  split
  · exact isNaN_zero negative
  split
  · exact isNaN_infinity negative
  split
  · exact isNaN_zero negative
  split <;> exact isNaN_ofRatio negative _ _

end FlexForm.Binary64
