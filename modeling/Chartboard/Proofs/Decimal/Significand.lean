import Chartboard.Proofs.Decimal.Nearest
import Mathlib.Algebra.Order.Field.Power
import Mathlib.Data.Rat.Cast.Order
import Mathlib.Tactic.Positivity

/-!
# Significands

The significand of a double is rounded by shifting digits out, of which two bits are kept: whether
the rest is at least half of the last digit, and whether there is something besides. That is enough
to find the nearest of the numbers that have 53 digits.
-/

namespace Chartboard.Double

open Float.Model Float.Model.UnpackedFloat

/-! ## Rounded significands -/

/-- Shifting keeps the quotient, and of the remainder whether it is half of the divisor or more, and
whether it is something else than nothing and half. -/
theorem shiftRight_exact (m k : Nat) :
    (⟨m, false, false⟩ : ExtendedMantissa) >>> k =
      ⟨m / 2 ^ k, decide (2 ^ k ≤ 2 * (m % 2 ^ k)),
        decide (m % 2 ^ k ≠ 0 ∧ 2 * (m % 2 ^ k) ≠ 2 ^ k)⟩ := by
  induction k with
  | zero =>
    show (⟨m, false, false⟩ : ExtendedMantissa) = _
    rw [Nat.pow_zero, Nat.div_one, Nat.mod_one]
    rfl
  | succ k ih =>
    show ((⟨m, false, false⟩ : ExtendedMantissa) >>> k).shiftRightOne = _
    have hmod : m % 2 ^ (k + 1) = m % 2 ^ k + 2 ^ k * (m / 2 ^ k % 2) := by
      rw [Nat.pow_succ, Nat.mod_mul]
    have hlt : m % 2 ^ k < 2 ^ k := Nat.mod_lt m (Nat.two_pow_pos k)
    rw [ih, hmod, Nat.pow_succ, ← Nat.div_div_eq_div_mul]
    unfold ExtendedMantissa.shiftRightOne
    generalize m / 2 ^ k = q
    generalize m % 2 ^ k = r at hlt
    generalize 2 ^ k = p at hlt
    rw [ExtendedMantissa.mk.injEq]
    refine ⟨rfl, ?_, ?_⟩
    · rw [Bool.eq_iff_iff, bne_iff_ne, decide_eq_true_iff]
      rcases Nat.mod_two_eq_zero_or_one q with hq | hq
      · rw [hq]
        omega
      · rw [hq]
        omega
    · rw [Bool.eq_iff_iff, Bool.or_eq_true, decide_eq_true_iff, decide_eq_true_iff,
        decide_eq_true_iff]
      rcases Nat.mod_two_eq_zero_or_one q with hq | hq
      · rw [hq]
        omega
      · rw [hq]
        omega

/-- A significand that is shifted and rounded is the nearest quotient. -/
theorem roundedMantissa_shiftRight (m k : Nat) :
    ((⟨m, false, false⟩ : ExtendedMantissa) >>> k).roundedMantissa = divNearest m (2 ^ k) := by
  rw [shiftRight_exact]
  unfold ExtendedMantissa.roundedMantissa divNearest
  generalize m / 2 ^ k = q
  generalize m % 2 ^ k = r
  generalize 2 ^ k = p
  by_cases hhalf : p ≤ 2 * r
  · rw [if_neg (by omega)]
    by_cases hmore : p < 2 * r
    · have hsticky : r ≠ 0 ∧ 2 * r ≠ p := by omega
      rw [if_pos hmore, decide_eq_true hhalf, decide_eq_true hsticky]
      rfl
    · have hexact : ¬(r ≠ 0 ∧ 2 * r ≠ p) := by omega
      rw [if_neg hmore, decide_eq_true hhalf, decide_eq_false hexact]
      rfl
  · rw [if_pos (by omega), decide_eq_false hhalf]
    cases decide (r ≠ 0 ∧ 2 * r ≠ p) <;> rfl

/-- A number that is not too small keeps 53 binary digits. -/
theorem targetExponent_binary64 {m : Nat} {e : Int} (h : -1074 ≤ (m.log2 : Int) - 52 + e) :
    Format.binary64.targetExponent (totalExponent m e) = (m.log2 : Int) - 52 + e := by
  have hleast : Format.binary64.minExponent = -1074 := by decide
  have hbits : (Format.binary64.mantissaBits : Int) = 53 := by decide
  unfold Format.targetExponent totalExponent
  rw [hleast, hbits]
  omega

/-- An exact significand is shifted until 53 binary digits are left. -/
theorem shiftToTargetExponent_eq {m : Nat} {e : Int} (hm : 52 ≤ m.log2)
    (he : -1074 ≤ (m.log2 : Int) - 52 + e) :
    shiftToTargetExponent Format.binary64 m e .exact =
      ((⟨m, false, false⟩ : ExtendedMantissa) >>> (m.log2 - 52), (m.log2 : Int) - 52 + e) := by
  have hamount : ((m.log2 : Int) - 52 + e - e).toNat = m.log2 - 52 := by omega
  have hexponent : e + ((m.log2 - 52 : Nat) : Int) = (m.log2 : Int) - 52 + e := by omega
  unfold shiftToTargetExponent shiftToExponent
  simp only [targetExponent_binary64 he, hamount, hexponent]
  rfl

/-- A significand of at least 53 digits is rounded to 53 of them. -/
theorem roundWithAccuracy_eq (s : Sign) {m : Nat} {e : Int} (hm : 52 ≤ m.log2)
    (he : -1074 ≤ (m.log2 : Int) - 52 + e) :
    ∃ m' hpos, ∃ k : Nat, k ≤ 1 ∧ 2 ^ 52 ≤ m' ∧ m' < 2 ^ 53 ∧
      roundWithAccuracy Format.binary64 s m e .exact =
        .finite s m' ((m.log2 : Int) - 52 + e + k) hpos ∧
      m' * 2 ^ k = divNearest m (unit m) := by
  obtain ⟨hlow, hhigh⟩ := divNearest_unit_bounds hm
  have hfirst := shiftToTargetExponent_eq hm he
  have hrounded : ((⟨m, false, false⟩ : ExtendedMantissa) >>> (m.log2 - 52)).roundedMantissa =
      divNearest m (unit m) := roundedMantissa_shiftRight m _
  generalize divNearest m (unit m) = q at hlow hhigh hrounded ⊢
  have hq : q ≠ 0 := by omega
  have hlog : 52 ≤ q.log2 := (Nat.le_log2 hq).2 hlow
  have hsecond := shiftToTargetExponent_eq (e := (m.log2 : Int) - 52 + e) hlog (by omega)
  have hmantissa : ((⟨q, false, false⟩ : ExtendedMantissa) >>> (q.log2 - 52)).mantissa =
      q / 2 ^ (q.log2 - 52) := by
    rw [shiftRight_exact]
  -- only a significand of 54 digits is shifted once more, and that is a power of two
  obtain ⟨hshift, hlow', hhigh', hexact⟩ : q.log2 - 52 ≤ 1 ∧ 2 ^ 52 ≤ q / 2 ^ (q.log2 - 52) ∧
      q / 2 ^ (q.log2 - 52) < 2 ^ 53 ∧ q / 2 ^ (q.log2 - 52) * 2 ^ (q.log2 - 52) = q := by
    rcases Nat.lt_or_eq_of_le hhigh with hlt | rfl
    · have hbelow := (Nat.log2_lt hq).2 hlt
      rw [show q.log2 - 52 = 0 by omega]
      omega
    · decide
  refine ⟨q / 2 ^ (q.log2 - 52), by omega, q.log2 - 52, hshift, hlow', hhigh', ?_, hexact⟩
  unfold roundWithAccuracy
  rw [hfirst]
  dsimp only
  rw [hrounded, hsecond]
  dsimp only
  rw [hmantissa, dif_neg (by omega), UnpackedFloat.finite.injEq]
  refine ⟨rfl, rfl, ?_⟩
  omega

/-! ## Values -/

/-- The unit of a number is a power of two. -/
theorem cast_unit (n : Nat) : (unit n : ℚ) = 2 ^ (n.log2 - 52) := by
  rw [unit, Nat.cast_pow, Nat.cast_ofNat]

/-- A natural number that is another one times a power of two is that one with zeros behind it, or
has more of them. -/
theorem exists_zeros {m n : Nat} {e : Int} (hvalue : (m : ℚ) * 2 ^ e = n) :
    (∃ k : Nat, e = k ∧ n = m * 2 ^ k) ∨ ∃ k : Nat, e = -(k : Int) ∧ m = n * 2 ^ k := by
  rcases Int.eq_nat_or_neg e with ⟨k, rfl | rfl⟩
  · refine Or.inl ⟨k, rfl, ?_⟩
    rw [zpow_natCast] at hvalue
    exact_mod_cast hvalue.symm
  · refine Or.inr ⟨k, rfl, ?_⟩
    have hpow : (2 : ℚ) ^ k ≠ 0 := by positivity
    rw [zpow_neg, zpow_natCast, mul_inv_eq_iff_eq_mul₀ hpow] at hvalue
    exact_mod_cast hvalue

/-- The significand and the exponent of a natural number have its binary digits together. -/
theorem log2_add_exponent {m n : Nat} {e : Int} (hm : m ≠ 0) (hn : n ≠ 0)
    (hvalue : (m : ℚ) * 2 ^ e = n) : (m.log2 : Int) + e = n.log2 := by
  rcases exists_zeros hvalue with ⟨k, rfl, rfl⟩ | ⟨k, rfl, rfl⟩
  · rw [log2_mul_two_pow hm]
    omega
  · rw [log2_mul_two_pow hn]
    omega

/-- The rounded value of a number is the rounded significand at the place of its 53rd digit. -/
theorem divNearest_value {m n : Nat} {e : Int} (hm : 52 ≤ m.log2) (hn : n ≠ 0)
    (hvalue : (m : ℚ) * 2 ^ e = n) :
    (divNearest m (unit m) : ℚ) * 2 ^ ((m.log2 : Int) - 52 + e) = nearestNat n := by
  have hm0 : m ≠ 0 := by
    rintro rfl
    exact absurd hm (by decide)
  have hlog := log2_add_exponent hm0 hn hvalue
  rcases exists_zeros hvalue with ⟨k, rfl, hnat⟩ | ⟨k, rfl, hnat⟩
  · have hunit : unit n = unit m * 2 ^ k := by
      rw [unit, unit, ← Nat.pow_add]
      congr 1
      omega
    have hexponent : (m.log2 : Int) - 52 + k = ((n.log2 - 52 : Nat) : Int) := by omega
    have hquotient : divNearest n (unit n) = divNearest m (unit m) := by
      rw [hunit, hnat, divNearest_mul_mul _ _ (Nat.two_pow_pos k)]
    rw [nearestNat, hquotient, hexponent, zpow_natCast, Nat.cast_mul, cast_unit]
  · by_cases hlarge : 52 ≤ n.log2
    · have hunit : unit m = unit n * 2 ^ k := by
        rw [unit, unit, ← Nat.pow_add]
        congr 1
        omega
      have hexponent : (m.log2 : Int) - 52 + -k = ((n.log2 - 52 : Nat) : Int) := by omega
      have hquotient : divNearest m (unit m) = divNearest n (unit n) := by
        rw [hunit, hnat, divNearest_mul_mul _ _ (Nat.two_pow_pos k)]
      rw [nearestNat, hquotient, hexponent, zpow_natCast, Nat.cast_mul, cast_unit]
    · -- the number is shorter than a significand, so that nothing is cut off
      have hsmall : n < 2 ^ 53 := (Nat.log2_lt hn).1 (by omega)
      have hsplit : m = n * 2 ^ (52 - n.log2) * unit m := by
        rw [unit, Nat.mul_assoc, ← Nat.pow_add, show 52 - n.log2 + (m.log2 - 52) = k by omega]
        exact hnat
      have hquotient : divNearest m (unit m) = n * 2 ^ (52 - n.log2) := by
        have hmul := divNearest_mul (n * 2 ^ (52 - n.log2)) (unit_pos m)
        rwa [← hsplit] at hmul
      have hexponent : (m.log2 : Int) - 52 + -k = -((52 - n.log2 : Nat) : Int) := by omega
      have hpow : (2 : ℚ) ^ (52 - n.log2) ≠ 0 := by positivity
      rw [hquotient, nearestNat_of_lt hsmall, hexponent, zpow_neg, zpow_natCast, Nat.cast_mul,
        Nat.cast_pow, Nat.cast_ofNat, mul_inv_cancel_right₀ hpow]

end Chartboard.Double
