import CaseDict.Number.Binary64
import Mathlib
/-! # The bits of a double

A finite double is what its bits stand for: taking the bits apart into sign, exponent and mantissa
and putting them together again gives the same bits. -/

namespace CaseDict.Number

open Float.Model UnpackedFloat

abbrev Word := BitVec Format.binary64.numBits

theorem toNat_unpackExponent (b : Word) :
    (unpackExponent b).toNat = b.toNat / 2 ^ 52 % 2048 := by
  simp [unpackExponent, Nat.shiftRight_eq_div_pow]

theorem toBitVec_ofBitVec (s : BitVec 1) : (Sign.ofBitVec s).toBitVec = s := by
  revert s; decide

theorem packComponents_unpack (b : Word) :
    packComponents .binary64 (Sign.ofBitVec (unpackSign b)) (unpackExponent b) (unpackMantissa b)
      = b := by
  apply BitVec.eq_of_getLsbD_eq
  intro i hi
  simp only [packComponents, toBitVec_ofBitVec, BitVec.getLsbD_append, unpackMantissa,
    unpackExponent, unpackSign, BitVec.getLsbD_cast, BitVec.getLsbD_extractLsb]
  grind

theorem toNat_one_append (v : BitVec 52) : (1#1 ++ v).toNat = 2 ^ 52 + v.toNat := by
  rw [BitVec.toNat_append, ← Nat.shiftLeft_add_eq_or_of_lt v.isLt]
  simp [Nat.shiftLeft_eq]

theorem unpack_eq (b : Word) : UnpackedFloat.unpack .binary64 b =
    if unpackExponent b = -1#_ then
      if unpackMantissa b = 0#_ then .infinity (Sign.ofBitVec (unpackSign b)) else .notANumber
    else if unpackExponent b = 0#_ then
      if h : unpackMantissa b = 0#_ then .zero (Sign.ofBitVec (unpackSign b))
      else .finite (Sign.ofBitVec (unpackSign b)) (unpackMantissa b).toNat (-1074)
        (by simpa [BitVec.toNat_pos, BitVec.pos_iff_ne_zero])
    else .finite (Sign.ofBitVec (unpackSign b)) (1#1 ++ unpackMantissa b).toNat
      ((unpackExponent b).toNat - 1075) (by rw [toNat_one_append]; omega) := by
  refine ite_congr rfl (fun _ => rfl) fun _ => ite_congr rfl (fun h => ?_) fun _ => rfl
  refine dite_congr rfl (fun _ => rfl) fun _ => ?_
  congr 1
  rw [h]
  rfl

theorem log2_eq_of_lt {n : Nat} (h : 2 ^ 52 ≤ n) (h' : n < 2 ^ 53) : n.log2 = 52 :=
  (Nat.log2_eq_iff (by omega)).mpr ⟨h, h'⟩

theorem pack_unpack {b : Word} (h : unpackExponent b ≠ -1#_) :
    UnpackedFloat.pack .binary64 (UnpackedFloat.unpack .binary64 b) = b := by
  have hm : (unpackMantissa b).toNat < 2 ^ 52 := (unpackMantissa b).isLt
  have he : (unpackExponent b).toNat < 2 ^ 11 := (unpackExponent b).isLt
  have hb := packComponents_unpack b
  have hne : (unpackExponent b).toNat ≠ 2047 := fun h' => h (BitVec.eq_of_toNat_eq h')
  rw [unpack_eq, if_neg h]
  split
  · next h0 =>
    rw [h0] at hb
    split
    · next hz => rw [hz] at hb; exact hb
    · next hz =>
      have hlog : ¬ (unpackMantissa b).toNat.log2 + 1 = Format.binary64.mantissaBits := by
        intro hl
        have hl' : (unpackMantissa b).toNat.log2 = 52 := Nat.succ.inj hl
        have := Nat.log2_self_le (n := (unpackMantissa b).toNat) (by
          intro h; exact hz (BitVec.eq_of_toNat_eq h))
        rw [hl'] at this
        omega
      rw [UnpackedFloat.pack]
      simp only []
      rw [if_neg (by decide), if_neg hlog, BitVec.ofNat_toNat, BitVec.setWidth_eq]
      exact hb
  · next h0 =>
    have hb1 : ((unpackExponent b).toNat - 1075 + Format.binary64.exponentBias +
        Format.binary64.mantissaBitsWithoutImplicit : Int).toNat = (unpackExponent b).toNat := by
      have : (Format.binary64.exponentBias : Int) = 1023 := rfl
      have : (Format.binary64.mantissaBitsWithoutImplicit : Int) = 52 := rfl
      omega
    have hlog : (1#1 ++ unpackMantissa b).toNat.log2 + 1 = Format.binary64.mantissaBits := by
      rw [log2_eq_of_lt (by rw [toNat_one_append]; omega) (by rw [toNat_one_append]; omega)]
      rfl
    rw [UnpackedFloat.pack]
    simp only [hb1]
    rw [if_neg (by simp only [Format.binary64]; omega), if_pos hlog]
    convert hb using 2
    · rw [BitVec.ofNat_toNat, BitVec.setWidth_eq]
    · apply BitVec.eq_of_toNat_eq
      rw [BitVec.toNat_ofNat]
      have := toNat_one_append (unpackMantissa b)
      rw [this]
      omega

theorem isFinite_iff (x : Float) : x.isFinite = true ↔ x.toBits.toNat / 2 ^ 52 % 2048 ≠ 2047 := by
  have hx : x.isFinite = (UnpackedFloat.unpack .binary64 x.toBits.toBitVec).isFinite := rfl
  have he : (@unpackExponent .binary64 x.toBits.toBitVec).toNat =
      x.toBits.toNat / 2 ^ 52 % 2048 := toNat_unpackExponent _
  rw [hx, ← he, unpack_eq]
  split
  · next h =>
    rw [h]
    split <;> simp [UnpackedFloat.isFinite]
  · next h =>
    have : (@unpackExponent .binary64 x.toBits.toBitVec).toNat ≠ 2047 :=
      fun h' => h (BitVec.eq_of_toNat_eq h')
    refine iff_of_true ?_ this
    split
    · split <;> rfl
    · rfl

/-- **A finite double is given back by its bits.** -/
theorem ofBits_toBits {x : Float} (h : x.isFinite = true) : Float.ofBits x.toBits = x := by
  obtain ⟨⟨bits, valid⟩⟩ := x
  have hne : @unpackExponent .binary64 bits.toBitVec ≠ -1#_ := by
    intro he
    apply (isFinite_iff _).mp h
    have : (@unpackExponent .binary64 bits.toBitVec).toNat = 2047 := by rw [he]; rfl
    rw [toNat_unpackExponent] at this
    exact this
  change Float.ofModel (Float.Model.ofBits bits) = _
  simp only [Float.Model.ofBits, Float.Model.pack, pack_unpack hne]

end CaseDict.Number
