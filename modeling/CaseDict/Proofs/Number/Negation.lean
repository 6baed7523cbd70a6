import CaseDict.Calc.Quantity
import CaseDict.Proofs.Number.Decimal
/-! # Doubles of the opposite sign

The sign of a double is one bit of it. To negate a double is to flip this bit, so the double of the
other sign that is nearest to a magnitude is the negated one (`neg_toFloat`). -/

namespace CaseDict.Number

open Float.Model UnpackedFloat

/-- The bits of a sign and a magnitude. -/
def wordOf (negative : Bool) (m : Nat) : Word :=
  BitVec.ofNat 64 ((if negative then Nat.pow 2 63 else 0) + m)

section Word

variable {m : Nat}

theorem toNat_wordOf (negative : Bool) (hm : m ≤ infinityBits) :
    (wordOf negative m).toNat = (if negative then 2 ^ 63 else 0) + m := by
  have hlt : (if negative then 2 ^ 63 else 0) + m < 2 ^ 64 := by
    simp only [infinityBits, Nat.pow_eq] at hm
    split <;> omega
  exact Nat.mod_eq_of_lt hlt

theorem toNat_unpackSign_wordOf (negative : Bool) (hm : m ≤ infinityBits) :
    (unpackSign (wordOf negative m)).toNat = if negative then 1 else 0 := by
  have hsign : (unpackSign (wordOf negative m)).toNat =
      (wordOf negative m).toNat / 2 ^ 63 % 2 := by
    simp [unpackSign, Nat.shiftRight_eq_div_pow]
  rw [hsign, toNat_wordOf negative hm]
  simp only [infinityBits, Nat.pow_eq] at hm
  split <;> omega

theorem toNat_unpackExponent_wordOf (negative : Bool) (hm : m ≤ infinityBits) :
    (unpackExponent (wordOf negative m)).toNat = m / 2 ^ 52 := by
  rw [toNat_unpackExponent, toNat_wordOf negative hm]
  simp only [infinityBits, Nat.pow_eq] at hm
  split <;> omega

theorem toNat_unpackMantissa_wordOf (negative : Bool) (hm : m ≤ infinityBits) :
    (unpackMantissa (wordOf negative m)).toNat = m % 2 ^ 52 := by
  have hmantissa : (unpackMantissa (wordOf negative m)).toNat =
      (wordOf negative m).toNat % 2 ^ 52 := by
    simp [unpackMantissa]
  rw [hmantissa, toNat_wordOf negative hm]
  split <;> omega

theorem sign_wordOf_not (negative : Bool) (hm : m ≤ infinityBits) :
    Sign.ofBitVec (unpackSign (wordOf (!negative) m)) =
      -Sign.ofBitVec (unpackSign (wordOf negative m)) := by
  have h (n : Bool) : unpackSign (wordOf n m) = if n then 1#1 else 0#1 := by
    apply BitVec.eq_of_toNat_eq
    rw [toNat_unpackSign_wordOf n hm]
    cases n <;> rfl
  rw [h, h]
  cases negative <;> rfl

/-- Words of one magnitude and opposite signs stand for opposite numbers. -/
theorem unpack_wordOf_not (negative : Bool) (hm : m ≤ infinityBits) :
    UnpackedFloat.unpack .binary64 (wordOf (!negative) m) =
      (UnpackedFloat.unpack .binary64 (wordOf negative m)).neg := by
  have hexponent : unpackExponent (wordOf (!negative) m) = unpackExponent (wordOf negative m) :=
    BitVec.eq_of_toNat_eq <|
      (toNat_unpackExponent_wordOf _ hm).trans (toNat_unpackExponent_wordOf _ hm).symm
  have hmantissa : unpackMantissa (wordOf (!negative) m) = unpackMantissa (wordOf negative m) :=
    BitVec.eq_of_toNat_eq <|
      (toNat_unpackMantissa_wordOf _ hm).trans (toNat_unpackMantissa_wordOf _ hm).symm
  simp only [unpack_eq, hexponent, hmantissa, sign_wordOf_not negative hm]
  split
  · split <;> rfl
  · split
    · split <;> rfl
    · rfl

theorem unpackExponent_wordOf_ne (negative : Bool) (hm : m < infinityBits) :
    unpackExponent (wordOf negative m) ≠ -1#_ := by
  intro h
  have htop : (unpackExponent (wordOf negative m)).toNat = 2047 := by
    rw [h]
    rfl
  rw [toNat_unpackExponent_wordOf negative hm.le] at htop
  simp only [infinityBits, Nat.pow_eq] at hm
  omega

end Word

/-! ### Doubles -/

/-- Doubles by their bits are negated by their sign. -/
theorem neg_ofBits (negative : Bool) {m : Nat} (hm : m ≤ infinityBits) :
    -Float.ofBits (.ofNat ((if negative then Nat.pow 2 63 else 0) + m)) =
      Float.ofBits (.ofNat ((if !negative then Nat.pow 2 63 else 0) + m)) := by
  rcases Nat.lt_or_eq_of_le hm with hlt | rfl
  · have hpack := pack_unpack (unpackExponent_wordOf_ne negative hlt)
    have hunpack := unpack_wordOf_not negative hm
    change Float.ofModel (Float.Model.pack (UnpackedFloat.unpack .binary64
      (UnpackedFloat.pack .binary64
        (UnpackedFloat.unpack .binary64 (wordOf negative m)))).neg) = _
    rw [hpack, ← hunpack]
    rfl
  · cases negative <;> rfl

theorem neg_ofRatio (negative : Bool) (num den : Nat) :
    -ofRatio negative num den = ofRatio (!negative) num den := by
  refine neg_ofBits negative ?_
  split
  · exact Nat.zero_le _
  · exact Nat.min_le_right ..

/-- **Nearest doubles of opposite signs are opposite.** -/
theorem neg_toFloat (negative : Bool) (d : Decimal) :
    -d.toFloat negative = d.toFloat (!negative) := by
  unfold Decimal.toFloat
  dsimp only
  split
  · exact neg_ofRatio negative 0 1
  split
  · exact neg_ofBits negative le_rfl
  · exact neg_ofRatio negative _ _

theorem neg_neg_toFloat (negative : Bool) (d : Decimal) :
    - -d.toFloat negative = d.toFloat negative := by
  rw [neg_toFloat, neg_toFloat, Bool.not_not]

/-- The sign of a finite double is its highest bit. -/
theorem negative_eq_signBit {x : Float} {d : Dyadic} (hd : dyadic? x = some d) :
    d.negative = Calc.signBit x := by
  have hshift : (x.toBits >>> 63).toNat = x.toBits.toNat / 2 ^ 63 := by
    rw [UInt64.toNat_shiftRight, Nat.shiftRight_eq_div_pow]
    rfl
  have hnegative : d.negative = (x.toBits.toNat / 2 ^ 63 == 1) := by
    unfold dyadic? at hd
    simp only [Nat.pow_eq] at hd
    split at hd
    · contradiction
    split at hd <;> rw [← Option.some.inj hd]
  rw [hnegative, ← hshift, Calc.signBit, Bool.eq_iff_iff, beq_iff_eq, beq_iff_eq, ← UInt64.toNat_inj]
  rfl

end CaseDict.Number
