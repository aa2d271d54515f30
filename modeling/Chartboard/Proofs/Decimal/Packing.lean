import Chartboard.Decimal.Basic
import Mathlib.Algebra.Ring.Nat

/-!
# Packed doubles

A significand of 53 digits is packed without its first one, which is always set. Nothing is lost:
the number that is unpacked is the one that was packed, and its significand, exponent and sign are
found in the bits of the double.
-/

namespace Chartboard.Double

open Float.Model Float.Model.UnpackedFloat

variable {s : Sign} {m : Nat} {e : Int} {hpos : 0 < m}

/-! ## There and back -/

/-- The hidden bit in front of the significand counts as `2 ^ 52`. -/
theorem toNat_append_one (m : BitVec 52) : (1#1 ++ m).toNat = 0x10000000000000 + m.toNat := by
  rw [BitVec.toNat_append, ← Nat.shiftLeft_add_eq_or_of_lt m.isLt, Nat.shiftLeft_eq]
  rfl

/-- The sign is found again in the packed bits. -/
theorem ofBitVec_unpackSign (s : Sign) (e : BitVec 11) (m : BitVec 52) :
    Sign.ofBitVec (unpackSign (packComponents Format.binary64 s e m)) = s := by
  have hsign : (s.toBitVec ++ e ++ m).extractLsb' 63 1 = s.toBitVec := by
    rw [BitVec.extractLsb'_append_eq_of_le (by decide),
      BitVec.extractLsb'_append_eq_of_le (by decide), BitVec.extractLsb'_eq_self]
  show Sign.ofBitVec ((s.toBitVec ++ e ++ m).extractLsb' 63 1) = s
  rw [hsign]
  cases s <;> rfl

/-- A zero is found again with its sign. -/
theorem unpack_pack_zero (s : Sign) :
    UnpackedFloat.unpack Format.binary64 (UnpackedFloat.pack Format.binary64 (.zero s)) =
      .zero s := by
  cases s <;> with_unfolding_all rfl

/-- A number with 53 digits and an exponent for which there is room is unpacked as it was packed. -/
theorem unpack_pack_finite (hlow : 2 ^ 52 ≤ m) (hhigh : m < 2 ^ 53) (hleast : -1074 ≤ e)
    (hgreatest : e ≤ 971) :
    UnpackedFloat.unpack Format.binary64
      (UnpackedFloat.pack Format.binary64 (.finite s m e hpos)) = .finite s m e hpos := by
  have hlog : m.log2 = 52 := (Nat.log2_eq_iff (by omega)).2 ⟨hlow, hhigh⟩
  have hbiased : (e + (Format.binary64.exponentBias : Int) +
      (Format.binary64.mantissaBitsWithoutImplicit : Int)).toNat = (e + 1075).toNat := by
    show (e + 1023 + 52).toNat = _
    omega
  have hpacked : UnpackedFloat.pack Format.binary64 (.finite s m e hpos) =
      packComponents Format.binary64 s (BitVec.ofNat 11 (e + 1075).toNat)
        (BitVec.ofNat 52 m) := by
    unfold UnpackedFloat.pack
    dsimp only
    rw [hbiased, hlog]
    rw [if_neg (show ¬2 ^ 11 ≤ (e + 1075).toNat + 1 by omega)]
    rfl
  have hexponent : (BitVec.ofNat 11 (e + 1075).toNat).toNat = (e + 1075).toNat := by
    rw [BitVec.toNat_ofNat]
    omega
  have hfull : BitVec.ofNat 11 (e + 1075).toNat ≠ -1#11 := by
    intro heq
    have hnat := congrArg BitVec.toNat heq
    rw [hexponent] at hnat
    have hones : (-1#11).toNat = 2047 := rfl
    omega
  have hempty : BitVec.ofNat 11 (e + 1075).toNat ≠ 0#11 := by
    intro heq
    have hnat := congrArg BitVec.toNat heq
    rw [hexponent] at hnat
    have hzero : (0#11).toNat = 0 := rfl
    omega
  have hmantissa : (1#1 ++ BitVec.ofNat 52 m).toNat = m := by
    rw [toNat_append_one, BitVec.toNat_ofNat]
    omega
  rw [hpacked]
  unfold UnpackedFloat.unpack
  dsimp only
  rw [unpackExponent_packComponents, if_neg hfull, if_neg hempty, UnpackedFloat.finite.injEq,
    ofBitVec_unpackSign, unpackMantissa_packComponents]
  refine ⟨rfl, hmantissa, ?_⟩
  show ((BitVec.ofNat 11 (e + 1075).toNat).toNat : Int) - (1023 + 52) = e
  rw [hexponent]
  omega

/-! ## Doubles in memory -/

/-- The exponent is eleven bits behind the sign. -/
theorem toNat_unpackExponent (b : BitVec 64) :
    (@unpackExponent Format.binary64 b).toNat = b.toNat / 0x10000000000000 % 0x800 := by
  show (BitVec.extractLsb 62 52 b).toNat = _
  rw [BitVec.extractLsb_toNat, Nat.shiftRight_eq_div_pow]

/-- The significand is the last 52 bits. -/
theorem toNat_unpackMantissa (b : BitVec 64) :
    (@unpackMantissa Format.binary64 b).toNat = b.toNat % 0x10000000000000 := by
  show (BitVec.extractLsb 51 0 b).toNat = _
  rw [BitVec.extractLsb_toNat, Nat.shiftRight_zero]

/-- The sign is the first bit. -/
theorem toNat_unpackSign (b : BitVec 64) :
    (@unpackSign Format.binary64 b).toNat = b.toNat / 0x8000000000000000 := by
  have hlt := b.isLt
  show (BitVec.extractLsb 63 63 b).toNat = _
  rw [BitVec.extractLsb_toNat, Nat.shiftRight_eq_div_pow]
  omega

/-- What is in memory with all bits of the exponent set is no finite number. -/
theorem unpackExponent_ne_full {b : BitVec 64}
    (h : (UnpackedFloat.unpack Format.binary64 b).isFinite) :
    @unpackExponent Format.binary64 b ≠ -1#11 := by
  intro hfull
  unfold UnpackedFloat.unpack at h
  dsimp only at h
  rw [if_pos hfull] at h
  by_cases hzero : @unpackMantissa Format.binary64 b = 0#52
  · rw [if_pos hzero] at h
    cases h
  · rw [if_neg hzero] at h
    cases h

/-- A number of 53 digits is in memory with its significand, its exponent and its sign. -/
theorem ofFloat_of_finite {x : Float} (h : x.toModel.unpack = .finite s m e hpos)
    (hm : 2 ^ 52 ≤ m) :
    Binary.ofFloat x = ⟨m, e⟩ ∧ isNegative x = (s == .negative) := by
  have hbits : x.toBits.toNat = x.toModel.toBits.toBitVec.toNat := rfl
  unfold Binary.ofFloat isNegative
  rw [hbits]
  change UnpackedFloat.unpack Format.binary64 x.toModel.toBits.toBitVec = _ at h
  generalize x.toModel.toBits.toBitVec = b at h ⊢
  have hexponent := toNat_unpackExponent b
  have hmantissa := toNat_unpackMantissa b
  have hsign := toNat_unpackSign b
  have hfull : @unpackExponent Format.binary64 b ≠ -1#11 :=
    unpackExponent_ne_full (by rw [h]; rfl)
  unfold UnpackedFloat.unpack at h
  dsimp only at h
  rw [if_neg hfull] at h
  by_cases hempty : @unpackExponent Format.binary64 b = 0#11
  · rw [if_pos hempty] at h
    by_cases hzero : @unpackMantissa Format.binary64 b = 0#52
    · rw [dif_pos hzero] at h
      cases h
    · rw [dif_neg hzero, UnpackedFloat.finite.injEq] at h
      omega
  · rw [if_neg hempty, UnpackedFloat.finite.injEq, toNat_append_one, hmantissa] at h
    obtain ⟨hs, rfl, he⟩ := h
    have hpositive : b.toNat / 0x10000000000000 % 0x800 ≠ 0 := by
      rw [← hexponent]
      exact fun hzero => hempty (BitVec.eq_of_toNat_eq hzero)
    have hbias : ((Format.binary64.exponentBias : Int) +
        (Format.binary64.mantissaBitsWithoutImplicit : Int)) = 1075 := rfl
    rw [hexponent, hbias] at he
    refine ⟨?_, ?_⟩
    · dsimp only
      rw [if_neg hpositive, Binary.mk.injEq]
      exact ⟨rfl, he⟩
    · rw [← hs, ← hsign, Sign.ofBitVec]
      generalize @unpackSign Format.binary64 b = sign
      revert sign
      decide

/-- A zero has the coefficient zero and the least exponent. -/
theorem ofFloat_of_zero {x : Float} (h : x.toModel.unpack = .zero s) :
    Binary.ofFloat x = ⟨0, -1074⟩ := by
  have hbits : x.toBits.toNat = x.toModel.toBits.toBitVec.toNat := rfl
  unfold Binary.ofFloat
  rw [hbits]
  change UnpackedFloat.unpack Format.binary64 x.toModel.toBits.toBitVec = _ at h
  generalize x.toModel.toBits.toBitVec = b at h ⊢
  have hexponent := toNat_unpackExponent b
  have hmantissa := toNat_unpackMantissa b
  have hfull : @unpackExponent Format.binary64 b ≠ -1#11 :=
    unpackExponent_ne_full (by rw [h]; rfl)
  unfold UnpackedFloat.unpack at h
  dsimp only at h
  rw [if_neg hfull] at h
  by_cases hempty : @unpackExponent Format.binary64 b = 0#11
  · rw [if_pos hempty] at h
    by_cases hzero : @unpackMantissa Format.binary64 b = 0#52
    · rw [hempty] at hexponent
      rw [hzero] at hmantissa
      have hexp : b.toNat / 0x10000000000000 % 0x800 = 0 := hexponent.symm
      have hman : b.toNat % 0x10000000000000 = 0 := hmantissa.symm
      dsimp only
      rw [if_pos hexp, Binary.mk.injEq]
      exact ⟨hman, rfl⟩
    · rw [dif_neg hzero] at h
      cases h
  · rw [if_neg hempty] at h
    cases h

end Chartboard.Double
