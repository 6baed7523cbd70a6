import CaseDict.Number.Decimal
import CaseDict.Proofs.Number.Rounding
/-! # The shortest decimal reads back

The double of a decimal depends on its value only, so digits may be moved across the point. The
shortest decimal of a double is one that reads back, and there is always one: the double written out
in full. -/

namespace CaseDict.Number

/-! ### Decimals of one value -/

/-- The magnitude that a decimal stands for. -/
def Decimal.value (d : Decimal) : ℚ := d.digits * 10 ^ d.exponent

theorem digitCount_eq_log {n : Nat} (hn : 0 < n) : digitCount n = Nat.log 10 n + 1 := by
  have hlen (k : Nat) (hk : 0 < k) : digitCount n ≤ k ↔ Nat.log 10 n < k := by
    rw [digitCount, Nat.length_toDigits_le_iff (by norm_num) hk, Nat.log_lt_iff_lt_pow (by norm_num)
      hn.ne']
  refine Nat.le_antisymm ((hlen _ (by omega)).mpr (by omega)) ?_
  exact (hlen _ Nat.length_toDigits_pos).mp le_rfl

/-- The size of a decimal is one more than the weight of its leading digit. -/
theorem Decimal.size_eq {d : Decimal} (hd : 0 < d.digits) :
    (digitCount d.digits : Int) + d.exponent = Int.log 10 d.value + 1 := by
  have h := log_mul_zpow (b := 10) (by norm_num) hd d.exponent
  rw [Nat.cast_ofNat] at h
  rw [Decimal.value, h, digitCount_eq_log hd]
  push_cast
  ring

theorem Decimal.ratio_eq (d : Decimal) : (d.ratio.1 : ℚ) / d.ratio.2 = d.value := by
  have h := zpow_eq_div 10 (by norm_num) d.exponent
  rw [Nat.cast_ofNat] at h
  rw [Decimal.value, h]
  simp only [Decimal.ratio, Nat.pow_eq, Nat.cast_mul]
  ring

theorem Decimal.value_eq_zero {d : Decimal} : d.value = 0 ↔ d.digits = 0 := by
  have h : (10 : ℚ) ^ d.exponent ≠ 0 := by positivity
  simp [Decimal.value, h]

theorem Decimal.ratio_pos {d : Decimal} (hd : 0 < d.digits) : 0 < d.ratio.1 ∧ 0 < d.ratio.2 := by
  simp only [Decimal.ratio, Nat.pow_eq]
  exact ⟨by positivity, by positivity⟩

/-- **Decimals of one value have the same nearest double.** -/
theorem Decimal.toFloat_congr {c d : Decimal} (h : c.value = d.value) (negative : Bool) :
    c.toFloat negative = d.toFloat negative := by
  by_cases hd : d.digits = 0
  · have hc : c.digits = 0 := by rwa [← value_eq_zero, h, value_eq_zero]
    simp [toFloat, hc, hd]
  have hc : c.digits ≠ 0 := by rwa [Ne, ← value_eq_zero, h, value_eq_zero]
  have hsize := size_eq (Nat.pos_of_ne_zero hc)
  rw [h, ← size_eq (Nat.pos_of_ne_zero hd)] at hsize
  have hcpos := ratio_pos (Nat.pos_of_ne_zero hc)
  have hdpos := ratio_pos (Nat.pos_of_ne_zero hd)
  have hratio : c.ratio.1 * d.ratio.2 = d.ratio.1 * c.ratio.2 := by
    have h' := c.ratio_eq.trans (h.trans d.ratio_eq.symm)
    rw [div_eq_div_iff (by exact_mod_cast hcpos.2.ne') (by exact_mod_cast hdpos.2.ne')] at h'
    exact_mod_cast h'
  have hround : ofRatio negative c.ratio.1 c.ratio.2 = ofRatio negative d.ratio.1 d.ratio.2 := by
    unfold ofRatio
    rw [if_neg hcpos.1.ne', if_neg hdpos.1.ne',
      magnitudeBits_congr hcpos.1 hcpos.2 hdpos.1 hdpos.2 hratio]
  unfold toFloat
  simp only [hsize, hc, hd, hround]

/-! ### The shortest decimal -/

theorem Decimal.toFloat_eq {d : Decimal} (hd : 0 < d.digits) (hlow : -401 ≤ Int.log 10 d.value)
    (hhigh : Int.log 10 d.value < 400) (negative : Bool) :
    d.toFloat negative = ofRatio negative d.ratio.1 d.ratio.2 := by
  unfold toFloat
  simp only [size_eq hd]
  rw [if_neg (by simp; omega), if_neg (by omega)]

theorem Dyadic.decimal_value (d : Dyadic) : d.decimal.value = d.mantissa * 2 ^ d.exponent := by
  unfold Dyadic.decimal Decimal.value
  split
  · next h =>
    obtain ⟨k, hk⟩ := Int.eq_ofNat_of_zero_le (Int.neg_nonneg_of_nonpos h.le)
    obtain he : d.exponent = -(k : Int) := by omega
    have h10 : (10 : ℚ) ^ k = 2 ^ k * 5 ^ k := by rw [← mul_pow]; norm_num
    rw [hk, he]
    simp only [Int.toNat_natCast, Nat.pow_eq, zpow_neg, zpow_natCast, h10]
    push_cast
    field_simp
  · next h =>
    obtain ⟨k, hk⟩ := Int.eq_ofNat_of_zero_le (Int.not_lt.mp h)
    simp only [hk, Int.toNat_natCast, Nat.pow_eq, zpow_natCast]
    push_cast
    ring

theorem two_zpow_le (k : Nat) : (2 : ℚ) ^ ((3 * k : Nat) : Int) ≤ 10 ^ (k : Int) := by
  rw [zpow_natCast, zpow_natCast, pow_mul]
  exact pow_le_pow_left₀ (by norm_num) (by norm_num) k

/-- A finite double written out in full reads back. -/
theorem Dyadic.decimal_toFloat {x : Float} {d : Dyadic} (hd : dyadic? x = some d)
    (hm : 0 < d.mantissa) : d.decimal.digits ≠ 0 ∧ d.decimal.toFloat d.negative = x := by
  obtain ⟨-, hm', he, he'⟩ := dyadic?_bounds hd
  have hv := d.decimal_value
  have hm1 : (1 : ℚ) ≤ d.mantissa := by exact_mod_cast hm
  have hm2 : (d.mantissa : ℚ) < 2 ^ (53 : Int) := by exact_mod_cast hm'
  have hpos : 0 < d.decimal.value := by rw [hv]; positivity
  have hdigits : d.decimal.digits ≠ 0 := by
    rw [Ne, ← Decimal.value_eq_zero]
    exact hpos.ne'
  have hlow : (10 : ℚ) ^ (-401 : Int) ≤ d.decimal.value := by
    calc (10 : ℚ) ^ (-401 : Int) ≤ 2 ^ (-1203 : Int) := by
          rw [zpow_neg, zpow_neg]
          exact inv_anti₀ (by positivity) (two_zpow_le 401)
      _ ≤ 2 ^ (-1074 : Int) := zpow_le_zpow_right₀ one_le_two (by norm_num)
      _ ≤ 1 * 2 ^ d.exponent := by rw [one_mul]; exact zpow_le_zpow_right₀ one_le_two he
      _ ≤ d.mantissa * 2 ^ d.exponent := by gcongr
      _ = d.decimal.value := hv.symm
  have hhigh : d.decimal.value < (10 : ℚ) ^ (400 : Int) := by
    calc d.decimal.value = d.mantissa * 2 ^ d.exponent := hv
      _ < 2 ^ (53 : Int) * 2 ^ d.exponent := by gcongr
      _ ≤ 2 ^ (53 : Int) * 2 ^ (971 : Int) := by gcongr; exact one_le_two
      _ = 2 ^ (1024 : Int) := by rw [← zpow_add₀ two_ne_zero]; rfl
      _ ≤ 2 ^ (1200 : Int) := zpow_le_zpow_right₀ one_le_two (by norm_num)
      _ ≤ 10 ^ (400 : Int) := two_zpow_le 400
  have hr := Decimal.ratio_pos (Nat.pos_of_ne_zero hdigits)
  refine ⟨hdigits, ?_⟩
  rw [Decimal.toFloat_eq (Nat.pos_of_ne_zero hdigits)
    ((Int.zpow_le_iff_le_log (by norm_num) hpos).mp (by exact_mod_cast hlow))
    ((Int.lt_zpow_iff_log_lt (by norm_num) hpos).mp (by exact_mod_cast hhigh))]
  refine ofRatio_eq hd hm.ne' hr.1 hr.2 ((isScaled_iff hr.2).mpr ?_)
  rw [Decimal.ratio_eq, hv]

/-- **The shortest decimal of a double reads back as the double.** -/
theorem shortest_spec {x : Float} {d : Dyadic} (hd : dyadic? x = some d) (hm : 0 < d.mantissa) :
    (shortest x d).digits ≠ 0 ∧ (shortest x d).toFloat d.negative = x := by
  simp only [shortest]
  cases hh : (List.range 17).findSome? _ with
  | none => exact Dyadic.decimal_toFloat hd hm
  | some c =>
    obtain ⟨n, -, hn⟩ := List.exists_of_findSome?_eq_some hh
    simpa using List.find?_some hn

end CaseDict.Number
