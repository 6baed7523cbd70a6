import CaseDict.Proofs.Number.Bits
import Mathlib.Algebra.Order.Field.Power
import Mathlib.Data.Int.Log
import Mathlib.Data.Nat.Log
import Mathlib.Data.Rat.Floor
import Mathlib.Tactic.FieldSimp
import Mathlib.Tactic.GCongr
import Mathlib.Tactic.Linarith
import Mathlib.Tactic.NormNum
import Mathlib.Tactic.Positivity
import Mathlib.Tactic.Ring
/-! # Rounding to the nearest double

Rounding depends on the ratio that is rounded and not on how it is written, and a ratio that is the
value of a double is rounded to that double. -/

namespace CaseDict.Number

/-! ### Powers with an exponent of either sign -/

theorem zpow_eq_div (b : Nat) (hb : 0 < b) (k : Int) :
    (b : ℚ) ^ k = ((b ^ k.toNat : Nat) : ℚ) / ((b ^ (-k).toNat : Nat) : ℚ) := by
  have hb' : (b : ℚ) ≠ 0 := by positivity
  rcases Int.le_total 0 k with h | h
  · have h1 : (-k).toNat = 0 := by omega
    rw [h1, pow_zero, Nat.cast_one, div_one, Nat.cast_pow, ← zpow_natCast, Int.toNat_of_nonneg h]
  · have h1 : k.toNat = 0 := by omega
    rw [h1, pow_zero, Nat.cast_one, one_div, Nat.cast_pow, ← zpow_natCast,
      Int.toNat_of_nonneg (by omega), ← zpow_neg, neg_neg]

theorem mul_pow_le_iff (b : Nat) (hb : 0 < b) (k : Int) (num den : Nat) (hd : 0 < den) :
    den * b ^ k.toNat ≤ num * b ^ (-k).toNat ↔ (b : ℚ) ^ k ≤ num / den := by
  rw [zpow_eq_div b hb, div_le_div_iff₀ (by positivity) (by positivity)]
  norm_cast
  rw [Nat.mul_comm den]

/-! ### The exponent of a ratio -/

theorem log_mul_zpow {b m : Nat} (hb : 1 < b) (hm : 0 < m) (e : Int) :
    Int.log b ((m : ℚ) * (b : ℚ) ^ e) = Nat.log b m + e := by
  have hb0 : (b : ℚ) ≠ 0 := by positivity
  have hp : (0 : ℚ) < b ^ e := by positivity
  have hv : (0 : ℚ) < m * b ^ e := by positivity
  have hlow : (b : ℚ) ^ ((Nat.log b m : Int) + e) ≤ m * b ^ e := by
    rw [zpow_add₀ hb0, zpow_natCast]
    refine mul_le_mul_of_nonneg_right ?_ hp.le
    exact_mod_cast Nat.pow_log_le_self b hm.ne'
  have hhigh : (m : ℚ) * b ^ e < b ^ ((Nat.log b m : Int) + e + 1) := by
    rw [add_right_comm, zpow_add₀ hb0, ← Nat.cast_succ, zpow_natCast]
    refine mul_lt_mul_of_pos_right ?_ hp
    exact_mod_cast Nat.lt_pow_succ_log_self hb m
  have h1 := (Int.zpow_le_iff_le_log hb hv).mp hlow
  have h2 := (Int.lt_zpow_iff_log_lt hb hv).mp hhigh
  omega

theorem log2_bounds {n : Nat} (h : 0 < n) : 2 ^ n.log2 ≤ n ∧ n < 2 ^ (n.log2 + 1) :=
  ⟨Nat.log2_self_le (by omega), Nat.lt_log2_self⟩

theorem log2Ratio_eq_log {num den : Nat} (hn : 0 < num) (hd : 0 < den) :
    log2Ratio num den = Int.log 2 ((num : ℚ) / den) := by
  obtain ⟨hn1, hn2⟩ := log2_bounds hn
  obtain ⟨hd1, hd2⟩ := log2_bounds hd
  have hq : (0 : ℚ) < num / den := by positivity
  have hn1' : (2 : ℚ) ^ (num.log2 : Int) ≤ num := by rw [zpow_natCast]; exact_mod_cast hn1
  have hn2' : (num : ℚ) < 2 ^ (num.log2 + 1 : Int) := by
    rw [← Nat.cast_succ, zpow_natCast]; exact_mod_cast hn2
  have hd1' : (2 : ℚ) ^ (den.log2 : Int) ≤ den := by rw [zpow_natCast]; exact_mod_cast hd1
  have hd2' : (den : ℚ) < 2 ^ (den.log2 + 1 : Int) := by
    rw [← Nat.cast_succ, zpow_natCast]; exact_mod_cast hd2
  have hlow : (2 : ℚ) ^ ((num.log2 : Int) - den.log2 - 1) ≤ num / den := by
    rw [le_div_iff₀ (by positivity)]
    calc (2 : ℚ) ^ ((num.log2 : Int) - den.log2 - 1) * den
        ≤ 2 ^ ((num.log2 : Int) - den.log2 - 1) * 2 ^ (den.log2 + 1 : Int) := by gcongr
      _ = 2 ^ (num.log2 : Int) := by rw [← zpow_add₀ (by norm_num)]; congr 1; ring
      _ ≤ num := hn1'
  have hhigh : (num : ℚ) / den < 2 ^ ((num.log2 : Int) - den.log2 + 1) := by
    rw [div_lt_iff₀ (by positivity)]
    calc (num : ℚ) < 2 ^ (num.log2 + 1 : Int) := hn2'
      _ = 2 ^ ((num.log2 : Int) - den.log2 + 1) * 2 ^ (den.log2 : Int) := by
          rw [← zpow_add₀ (by norm_num)]; congr 1; ring
      _ ≤ 2 ^ ((num.log2 : Int) - den.log2 + 1) * den := by gcongr
  have hlog := (Int.lt_zpow_iff_log_lt one_lt_two hq).mp (by rw [Nat.cast_ofNat]; exact hhigh)
  have hlog' := (Int.zpow_le_iff_le_log one_lt_two hq).mp (by rw [Nat.cast_ofNat]; exact hlow)
  unfold log2Ratio
  simp only [Nat.pow_eq]
  split
  · next h =>
    have h' : ¬ den * 2 ^ ((num.log2 : Int) - den.log2).toNat ≤
        num * 2 ^ (-((num.log2 : Int) - den.log2)).toNat := by omega
    rw [mul_pow_le_iff 2 (by norm_num) _ _ _ hd] at h'
    have := mt (Int.zpow_le_iff_le_log one_lt_two hq).mpr h'
    omega
  · next h =>
    have h' : den * 2 ^ ((num.log2 : Int) - den.log2).toNat ≤
        num * 2 ^ (-((num.log2 : Int) - den.log2)).toNat := by omega
    rw [mul_pow_le_iff 2 (by norm_num) _ _ _ hd] at h'
    have := (Int.zpow_le_iff_le_log one_lt_two hq).mp h'
    omega

/-! ### Rounding -/

theorem roundDiv_mul_left {c : Nat} (hc : 0 < c) (num den : Nat) :
    roundDiv (c * num) (c * den) = roundDiv num den := by
  have hdiv : c * num / (c * den) = num / den := Nat.mul_div_mul_left _ _ hc
  have hmod : c * num % (c * den) = c * (num % den) := Nat.mul_mod_mul_left c num den
  have hlt : c * den < 2 * (c * (num % den)) ↔ den < 2 * (num % den) := by
    rw [Nat.mul_left_comm, Nat.mul_lt_mul_left hc]
  have heq : c * den = 2 * (c * (num % den)) ↔ den = 2 * (num % den) := by
    rw [Nat.mul_left_comm, Nat.mul_right_inj hc.ne']
  unfold roundDiv
  simp only [hdiv, hmod, hlt, Bool.beq_eq_decide_eq, heq]

/-- Rounding depends on the ratio only. -/
theorem roundDiv_congr {n d n' d' : Nat} (hd : 0 < d) (hd' : 0 < d') (h : n * d' = n' * d) :
    roundDiv n d = roundDiv n' d' := by
  rw [← roundDiv_mul_left hd' n d, ← roundDiv_mul_left hd n' d', Nat.mul_comm d' n, h,
    Nat.mul_comm n' d, Nat.mul_comm d' d]

theorem roundDiv_mul_self {d : Nat} (hd : 0 < d) (m : Nat) : roundDiv (m * d) d = m := by
  simp [roundDiv, Nat.mul_div_cancel _ hd]
  omega

theorem roundDiv_eq_of_eq_mul {n d m : Nat} (hd : 0 < d) (h : n = m * d) : roundDiv n d = m := by
  rw [h, roundDiv_mul_self hd]

theorem magnitudeBits_congr {n d n' d' : Nat} (hn : 0 < n) (hd : 0 < d) (hn' : 0 < n')
    (hd' : 0 < d') (h : n * d' = n' * d) : magnitudeBits n d = magnitudeBits n' d' := by
  have hq : (n : ℚ) / d = n' / d' := by
    rw [div_eq_div_iff (by positivity) (by positivity)]
    exact_mod_cast h
  unfold magnitudeBits
  simp only [log2Ratio_eq_log hn hd, log2Ratio_eq_log hn' hd', hq, Nat.pow_eq]
  generalize max (Int.log 2 ((n' : ℚ) / d') - 52) (-1074) = q
  have hr : n * 2 ^ (-q).toNat * (d' * 2 ^ q.toNat) = n' * 2 ^ (-q).toNat * (d * 2 ^ q.toNat) := by
    rw [Nat.mul_mul_mul_comm, h, Nat.mul_mul_mul_comm]
  rw [roundDiv_congr (by positivity) (by positivity) hr]

/-! ### Doubles as ratios -/

/-- The ratio is `m * 2 ^ e`. -/
def IsScaled (num den m : Nat) (e : Int) : Prop := num * 2 ^ (-e).toNat = m * 2 ^ e.toNat * den

theorem isScaled_iff {num den m : Nat} {e : Int} (hd : 0 < den) :
    IsScaled num den m e ↔ (num : ℚ) / den = m * 2 ^ e := by
  have h := zpow_eq_div 2 two_pos e
  rw [Nat.cast_ofNat] at h
  rw [h, ← mul_div_assoc, div_eq_div_iff (by positivity) (by positivity), IsScaled]
  norm_cast

theorem log_of_isScaled {num den m : Nat} {e : Int} (hm : 0 < m) (hd : 0 < den)
    (h : IsScaled num den m e) : Int.log 2 ((num : ℚ) / den) = m.log2 + e := by
  have hlog := log_mul_zpow one_lt_two hm e
  rw [Nat.cast_ofNat] at hlog
  rw [(isScaled_iff hd).mp h, hlog, Nat.log2_eq_log_two]

/-- The ratio of a double is rounded to its own bits. -/
theorem magnitudeBits_of_isScaled {num den m : Nat} {e : Int} (hm : 0 < m) (hm' : m < 2 ^ 53)
    (he : -1074 ≤ e) (he' : e ≤ 971) (hnorm : 2 ^ 52 ≤ m ∨ e = -1074) (hn : 0 < num)
    (hd : 0 < den) (h : IsScaled num den m e) :
    magnitudeBits num den = (e + 1074).toNat * 2 ^ 52 + m := by
  have hlog : m.log2 ≤ 52 := by
    have := (Nat.log2_lt (k := 53) hm.ne').mpr hm'
    omega
  have hq : max (log2Ratio num den - 52) (-1074) = e := by
    rw [log2Ratio_eq_log hn hd, log_of_isScaled hm hd h]
    rcases hnorm with hnorm | rfl
    · have : 52 ≤ m.log2 := (Nat.le_log2 hm.ne').mpr hnorm
      omega
    · omega
  have hr : roundDiv (num * 2 ^ (-e).toNat) (den * 2 ^ e.toNat) = m := by
    refine roundDiv_eq_of_eq_mul (by positivity) ?_
    rw [h, Nat.mul_assoc, Nat.mul_comm den]
  unfold magnitudeBits
  simp only [hq, Nat.pow_eq, hr]
  refine Nat.min_eq_left ?_
  have : (e + 1074).toNat ≤ 2045 := by omega
  simp only [infinityBits, Nat.pow_eq]
  omega

/-- The parts of a finite double, by its bits. -/
theorem dyadic?_eq {x : Float} (h : x.isFinite = true) :
    ∃ sign biased fraction : Nat, sign < 2 ∧ biased < 2047 ∧ fraction < 2 ^ 52 ∧
      x.toBits.toNat = sign * 2 ^ 63 + (biased * 2 ^ 52 + fraction) ∧
      dyadic? x = some (if biased = 0 then ⟨sign == 1, fraction, -1074⟩
        else ⟨sign == 1, fraction + 2 ^ 52, biased - 1075⟩) := by
  have hne := (isFinite_iff x).mp h
  have hlt : x.toBits.toNat < 2 ^ 64 := x.toBits.toNat_lt
  refine ⟨x.toBits.toNat / 2 ^ 63, x.toBits.toNat / 2 ^ 52 % 2048, x.toBits.toNat % 2 ^ 52,
    by omega, by omega, by omega, by omega, ?_⟩
  unfold dyadic?
  simp only [Nat.pow_eq, if_neg hne]
  split <;> rfl

theorem dyadic?_bounds {x : Float} {d : Dyadic} (h : dyadic? x = some d) :
    x.isFinite = true ∧ d.mantissa < 2 ^ 53 ∧ -1074 ≤ d.exponent ∧ d.exponent ≤ 971 := by
  rw [isFinite_iff]
  unfold dyadic? at h
  simp only [Nat.pow_eq] at h
  split at h
  · contradiction
  · next hne =>
    refine ⟨hne, ?_⟩
    split at h
    · obtain rfl := Option.some.inj h
      dsimp only
      omega
    · obtain rfl := Option.some.inj h
      dsimp only
      omega

/-- The sign and the magnitude of a double, by its bits. -/
theorem ofBits_eq {x : Float} {d : Dyadic} (hd : dyadic? x = some d) :
    ∃ biased fraction : Nat, biased < 2047 ∧ fraction < 2 ^ 52 ∧
      d.mantissa = (if biased = 0 then fraction else fraction + 2 ^ 52) ∧
      d.exponent = (if biased = 0 then -1074 else (biased : Int) - 1075) ∧
      Float.ofBits (UInt64.ofNat ((if d.negative then Nat.pow 2 63 else 0) +
        (biased * 2 ^ 52 + fraction))) = x := by
  have h := (dyadic?_bounds hd).1
  obtain ⟨sign, biased, fraction, hsign, hbiased, hfraction, hbits, hx⟩ := dyadic?_eq h
  rw [hd, Option.some.injEq] at hx
  have hneg : (if d.negative then Nat.pow 2 63 else 0) = sign * 2 ^ 63 := by
    rw [hx]
    rcases (by omega : sign = 0 ∨ sign = 1) with rfl | rfl <;> split <;> simp
  refine ⟨biased, fraction, hbiased, hfraction, ?_, ?_, ?_⟩
  · rw [hx]
    split <;> rfl
  · rw [hx]
    split <;> rfl
  · rw [hneg, ← hbits, UInt64.ofNat_toNat, ofBits_toBits h]

/-- **A finite double is the double nearest to its own value.** -/
theorem ofRatio_eq {x : Float} {d : Dyadic} (hd : dyadic? x = some d)
    (hm : d.mantissa ≠ 0) {num den : Nat} (hn : 0 < num) (hden : 0 < den)
    (hs : IsScaled num den d.mantissa d.exponent) : ofRatio d.negative num den = x := by
  obtain ⟨biased, fraction, hbiased, hfraction, hmantissa, hexponent, hx⟩ := ofBits_eq hd
  have hmag : magnitudeBits num den = biased * 2 ^ 52 + fraction := by
    rw [hmantissa] at hm hs
    rw [hexponent] at hs
    rcases Nat.eq_zero_or_pos biased with h0 | h0
    · simp only [if_pos h0] at hm hs
      rw [magnitudeBits_of_isScaled (Nat.pos_of_ne_zero hm) (by omega) le_rfl (by omega) (.inr rfl)
        hn hden hs]
      omega
    · simp only [if_neg h0.ne'] at hm hs
      rw [magnitudeBits_of_isScaled (by omega) (by omega) (by omega) (by omega)
        (.inl (by omega)) hn hden hs]
      omega
  unfold ofRatio
  rw [if_neg hn.ne', hmag, hx]

theorem ofRatio_zero {x : Float} {d : Dyadic} (hd : dyadic? x = some d) (hm : d.mantissa = 0)
    (den : Nat) : ofRatio d.negative 0 den = x := by
  obtain ⟨biased, fraction, hbiased, hfraction, hmantissa, -, hx⟩ := ofBits_eq hd
  have hmag : biased * 2 ^ 52 + fraction = 0 := by
    rw [hmantissa] at hm
    split at hm <;> omega
  rw [hmag] at hx
  unfold ofRatio
  rw [if_pos rfl, hx]

end CaseDict.Number
