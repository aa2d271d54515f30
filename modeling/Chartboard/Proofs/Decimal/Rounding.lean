import Chartboard.Decimal.Shortest
import Mathlib.Algebra.Order.Field.Power
import Mathlib.Data.Rat.Cast.Order
import Mathlib.Tactic.Linarith
import Mathlib.Tactic.NormNum
import Mathlib.Tactic.Positivity
import Mathlib.Tactic.Ring

/-!
# Shortest decimals round back

The decimal that is written for a double lies in the interval of the numbers that round to it.
Every hit of the search is tested for that, and the last grid is so fine that its point below the
double lies there untested.
-/

namespace Chartboard

/-- The exact value of a decimal. -/
def Decimal.value (d : Decimal) : ℚ :=
  d.coefficient * 10 ^ d.exponent

namespace RoundingInterval

/-- The interval holds a number: bounds themselves only if it is closed. -/
def Holds (r : RoundingInterval) (p : ℚ) : Prop :=
  if r.closed then r.low * 2 ^ r.exponent ≤ p ∧ p ≤ r.high * 2 ^ r.exponent
  else r.low * 2 ^ r.exponent < p ∧ p < r.high * 2 ^ r.exponent

/-- The common denominator of interval units and multiples of `10 ^ k`. -/
def denominator (r : RoundingInterval) (k : Int) : ℚ :=
  2 ^ (-r.exponent).toNat * 10 ^ (-k).toNat

variable {r : RoundingInterval} {k : Int} {c m : Nat}

/-- The common denominator is positive. -/
theorem denominator_pos : 0 < r.denominator k := by
  unfold denominator
  positivity

/-- A power is the quotient of the powers to its positive and its negative part. -/
theorem zpow_mul_pow_neg {b : ℚ} (hb : b ≠ 0) (n : Int) :
    b ^ n * b ^ (-n).toNat = b ^ n.toNat := by
  rw [← zpow_natCast, ← zpow_natCast b n.toNat, ← zpow_add₀ hb]
  congr 1
  omega

/-- The multiplier of units is what a unit comes to over the common denominator. -/
theorem unitScale_eq : (r.unitScale k : ℚ) = 2 ^ r.exponent * r.denominator k := by
  have htwo := zpow_mul_pow_neg (b := 2) (by norm_num) r.exponent
  unfold unitScale denominator
  rw [← mul_assoc, htwo]
  simp only [Nat.pow_eq]
  push_cast
  ring

/-- The multiplier of grid points is what a power of ten comes to over the common denominator. -/
theorem gridScale_eq : (r.gridScale k : ℚ) = 10 ^ k * r.denominator k := by
  have hten := zpow_mul_pow_neg (b := 10) (by norm_num) k
  unfold gridScale denominator
  rw [mul_left_comm, hten]
  simp only [Nat.pow_eq]
  push_cast
  ring

/-- Units and grid points compare as the numbers that they stand for. -/
theorem units_le_points_iff :
    m * r.unitScale k ≤ c * r.gridScale k ↔ (m : ℚ) * 2 ^ r.exponent ≤ c * 10 ^ k := by
  have hpos := @denominator_pos r k
  rw [← Nat.cast_le (α := ℚ), Nat.cast_mul, Nat.cast_mul, unitScale_eq, gridScale_eq,
    ← mul_assoc, ← mul_assoc, mul_le_mul_iff_left₀ hpos]

/-- Grid points and units compare as the numbers that they stand for. -/
theorem points_le_units_iff :
    c * r.gridScale k ≤ m * r.unitScale k ↔ (c : ℚ) * 10 ^ k ≤ m * 2 ^ r.exponent := by
  have hpos := @denominator_pos r k
  rw [← Nat.cast_le (α := ℚ), Nat.cast_mul, Nat.cast_mul, unitScale_eq, gridScale_eq,
    ← mul_assoc, ← mul_assoc, mul_le_mul_iff_left₀ hpos]

/-- The test on natural numbers decides whether the interval holds a multiple of `10 ^ k`. -/
theorem contains_iff : r.contains k c ↔ r.Holds (c * 10 ^ k) := by
  unfold contains Holds
  cases r.closed with
  | true =>
    simp only [if_true, Bool.and_eq_true, decide_eq_true_eq]
    rw [units_le_points_iff, points_le_units_iff]
  | false =>
    simp only [Bool.false_eq_true, if_false, Bool.and_eq_true, decide_eq_true_eq]
    rw [← not_le, ← not_le, points_le_units_iff, units_le_points_iff, not_le, not_le]

/-- The decimal that is found on a grid rounds to the double. -/
theorem holds_of_onGrid? (h : r.onGrid? k = some c) : r.Holds (c * 10 ^ k) := by
  rw [← contains_iff]
  unfold onGrid? at h
  simp only at h
  split at h
  · cases h
  · rename_i hdown _
    cases h
    exact hdown
  · rename_i _ hup
    cases h
    exact hup
  · rename_i hdown hup
    split at h
    · cases h
      exact hdown
    · split at h
      · cases h
        exact hup
      · split at h
        · cases h
          exact hdown
        · cases h
          exact hup

/-! ## The grid points next to the double -/

/-- The grid point below the double is not above it. -/
theorem below_le : (r.below k : ℚ) * 10 ^ k ≤ r.value * 2 ^ r.exponent := by
  rw [← points_le_units_iff]
  exact Nat.div_mul_le_self _ _

/-- The multiplier of grid points is positive. -/
theorem gridScale_pos : 0 < r.gridScale k :=
  Nat.mul_pos (Nat.pow_pos (by decide)) (Nat.pow_pos (by decide))

/-- The next grid point is above the double. -/
theorem lt_below_succ : (r.value : ℚ) * 2 ^ r.exponent < (r.below k + 1) * 10 ^ k := by
  have hlt : r.value * r.unitScale k < (r.below k + 1) * r.gridScale k := by
    unfold below
    rw [Nat.mul_comm (_ + 1)]
    exact Nat.lt_mul_div_succ _ gridScale_pos
  have hnot := not_le.2 hlt
  rw [points_le_units_iff, not_le] at hnot
  push_cast at hnot
  exact hnot

/-- On a grid finer than the unit, the point below the double is in the interval. -/
theorem holds_below (hlow : r.low < r.value) (hhigh : r.value < r.high)
    (hfine : (10 : ℚ) ^ k ≤ 2 ^ r.exponent) : r.Holds (r.below k * 10 ^ k) := by
  have hunit : (0 : ℚ) < 2 ^ r.exponent := by positivity
  have hbelow := @below_le r k
  have hnext := @lt_below_succ r k
  have hgap : ((r.low : ℚ) + 1) * 2 ^ r.exponent ≤ r.value * 2 ^ r.exponent := by
    apply mul_le_mul_of_nonneg_right _ hunit.le
    exact_mod_cast hlow
  have hup : (r.value : ℚ) * 2 ^ r.exponent < r.high * 2 ^ r.exponent := by
    apply mul_lt_mul_of_pos_right _ hunit
    exact_mod_cast hhigh
  have hdown : (r.low : ℚ) * 2 ^ r.exponent < r.below k * 10 ^ k := by linarith
  unfold Holds
  split
  · exact ⟨hdown.le, by linarith⟩
  · exact ⟨hdown, by linarith⟩

/-- Every decimal that the search can return is in the interval. -/
theorem search_holds (hlow : r.low < r.value) (hhigh : r.value < r.high) (fuel : Nat) :
    ∀ k : Int, (10 : ℚ) ^ (k - fuel) ≤ 2 ^ r.exponent → r.Holds (r.search fuel k).value := by
  induction fuel with
  | zero =>
    intro k hfine
    have hlast : (10 : ℚ) ^ k ≤ 2 ^ r.exponent := by simpa using hfine
    exact holds_below hlow hhigh hlast
  | succ fuel ih =>
    intro k hfine
    unfold search
    cases hhit : r.onGrid? k with
    | some c => exact holds_of_onGrid? hhit
    | none =>
      have hindex : k - ((fuel + 1 : Nat) : Int) = k - 1 - fuel := by
        push_cast
        ring
      rw [hindex] at hfine
      exact ih (k - 1) hfine

/-! ## The leading digit -/

/-- As a logarithm of two, `0.30103` is too large by less than one part in a hundred thousand. -/
theorem ten_pow_le : 10 ^ 30103 ≤ 2 ^ 100001 := by
  decide +kernel

/-- One hundred thousand binary digits are less than 30104 decimal ones. -/
theorem two_pow_le : 2 ^ 100000 ≤ 10 ^ 30103 := by
  decide +kernel

/-- A comparison of powers is kept by raising both to a further power. -/
theorem pow_mul_le_pow_mul {a b i j : Nat} (h : a ^ i ≤ b ^ j) (n : Nat) :
    a ^ (i * n) ≤ b ^ (j * n) := by
  rw [Nat.pow_mul, Nat.pow_mul]
  exact Nat.pow_le_pow_left h n

/-- The estimate of decimal digits by binary ones, raised to a power within its reach. -/
theorem ten_zpow_scaled_le {n : Int} (h : n ≤ 100000) :
    (10 : ℚ) ^ (30103 * n) ≤ 2 ^ (100000 * (n + 1)) := by
  rcases Int.eq_nat_or_neg n with ⟨m, rfl | rfl⟩
  · have hscaled : (10 : ℚ) ^ (30103 * (m : Int)) ≤ 2 ^ (100001 * (m : Int)) := by
      exact_mod_cast pow_mul_le_pow_mul ten_pow_le m
    exact hscaled.trans (zpow_le_zpow_right₀ (by norm_num) (by omega))
  · have hscaled : (2 : ℚ) ^ (100000 * (m : Int)) ≤ 10 ^ (30103 * (m : Int)) := by
      exact_mod_cast pow_mul_le_pow_mul two_pow_le m
    calc (10 : ℚ) ^ (30103 * -(m : Int)) = (10 ^ (30103 * (m : Int)))⁻¹ := by
          rw [mul_neg, zpow_neg]
      _ ≤ (2 ^ (100000 * (m : Int)))⁻¹ := inv_anti₀ (by positivity) hscaled
      _ = 2 ^ (100000 * -(m : Int)) := by rw [mul_neg, zpow_neg]
      _ ≤ 2 ^ (100000 * (-(m : Int) + 1)) := zpow_le_zpow_right₀ (by norm_num) (by omega)

/-- The estimate of the leading digit of a power of two is too large by a factor of two at most. -/
theorem ten_zpow_estimate_le {n : Int} (h : n ≤ 100000) :
    (10 : ℚ) ^ (n * 30103).fdiv 100000 ≤ 2 ^ (n + 1) := by
  have hestimate : (n * 30103).fdiv 100000 * 100000 ≤ 30103 * n := by
    rw [Int.fdiv_eq_ediv_of_nonneg _ (by decide), Int.mul_comm n]
    exact Int.ediv_mul_le _ (by decide)
  generalize (n * 30103).fdiv 100000 = estimate at hestimate ⊢
  have hroot : ((10 : ℚ) ^ estimate) ^ 100000 ≤ (2 ^ (n + 1)) ^ 100000 := by
    calc ((10 : ℚ) ^ estimate) ^ 100000 = 10 ^ (estimate * 100000) := by
          rw [← zpow_natCast, ← zpow_mul]
          rfl
      _ ≤ 10 ^ (30103 * n) := zpow_le_zpow_right₀ (by norm_num) hestimate
      _ ≤ 2 ^ (100000 * (n + 1)) := ten_zpow_scaled_le h
      _ = (2 ^ (n + 1)) ^ 100000 := by
          rw [Int.mul_comm, zpow_mul, ← zpow_natCast]
          rfl
  exact le_of_pow_le_pow_left₀ (by decide) (by positivity) hroot

/-- The leading digit stands at most one place too high for half of the double. -/
theorem ten_zpow_leadingExponent_le (hpos : 0 < r.value)
    (hsize : Nat.log2 r.value + r.exponent ≤ 100000) :
    (10 : ℚ) ^ r.leadingExponent ≤ 2 * (r.value * 2 ^ r.exponent) := by
  have hunit : (0 : ℚ) < 2 ^ r.exponent := by positivity
  have hvalue : (0 : ℚ) < r.value := by exact_mod_cast hpos
  unfold leadingExponent
  simp only
  split
  · have hlog : (2 : ℚ) ^ Nat.log2 r.value ≤ r.value := by
      exact_mod_cast Nat.log2_self_le (Nat.ne_of_gt hpos)
    calc (10 : ℚ) ^ ((Nat.log2 r.value + r.exponent) * 30103).fdiv 100000
        ≤ 2 ^ (Nat.log2 r.value + r.exponent + 1) := ten_zpow_estimate_le hsize
      _ = 2 * (2 ^ Nat.log2 r.value * 2 ^ r.exponent) := by
          rw [zpow_add_one₀ (by norm_num), zpow_add₀ (by norm_num), zpow_natCast]
          ring
      _ ≤ 2 * (r.value * 2 ^ r.exponent) := by
          have hscaled := mul_le_mul_of_nonneg_right hlog hunit.le
          linarith
  · rename_i hbelow
    generalize ((Nat.log2 r.value + r.exponent) * 30103).fdiv 100000 + 1 = place at hbelow ⊢
    have hone : (1 : ℚ) ≤ r.below place := by
      exact_mod_cast Nat.one_le_iff_ne_zero.2 hbelow
    have hgrid : (0 : ℚ) < 10 ^ place := by positivity
    have hpoint := mul_le_mul_of_nonneg_right hone hgrid.le
    have hbound := @below_le r place
    have hdouble : (0 : ℚ) < r.value * 2 ^ r.exponent := mul_pos hvalue hunit
    linarith

end RoundingInterval

/-! ## The shortest decimal -/

namespace Decimal

/-- A decimal without its last zeros has the same value. -/
theorem value_normalize (d : Decimal) : d.normalize.value = d.value := by
  induction d using normalize.induct with
  | case1 d h ih =>
    have hdigits : d.coefficient = 10 * (d.coefficient / 10) := by omega
    rw [normalize, dif_pos h, ih]
    unfold value
    rw [zpow_add_one₀ (by norm_num)]
    conv => rhs; rw [hdigits]
    push_cast
    ring
  | case2 d h => rw [normalize, dif_neg h]

end Decimal

/-- The coefficient of a double has at most 53 binary digits. -/
theorem Binary.coefficient_ofFloat_lt (x : Float) : (ofFloat x).coefficient < 2 ^ 53 := by
  unfold ofFloat
  simp only
  split
  · show _ % _ < _
    omega
  · show _ + _ % _ < _
    omega

/-- No double has an exponent above 972. -/
theorem Binary.exponent_ofFloat_le (x : Float) : (ofFloat x).exponent ≤ 972 := by
  unfold ofFloat
  simp only
  split
  · show (-1074 : Int) ≤ 972
    decide
  · show (_ % _ : Nat) - (1075 : Int) ≤ 972
    omega

/-- The shortest decimal of a double rounds to its magnitude. -/
theorem Decimal.shortest_holds (x : Float) (hpos : 0 < (Binary.ofFloat x).coefficient) :
    (RoundingInterval.ofBinary (Binary.ofFloat x)).Holds (shortest x).value := by
  have hcoefficient := Binary.coefficient_ofFloat_lt x
  have hexponent := Binary.exponent_ofFloat_le x
  unfold shortest
  generalize Binary.ofFloat x = b at hpos hcoefficient hexponent ⊢
  simp only
  rw [if_neg (Nat.ne_of_gt hpos), value_normalize]
  have hlow : (RoundingInterval.ofBinary b).low < (RoundingInterval.ofBinary b).value := by
    unfold RoundingInterval.ofBinary
    simp only
    split
    · omega
    · omega
  have hhigh : (RoundingInterval.ofBinary b).value < (RoundingInterval.ofBinary b).high := by
    show 4 * b.coefficient < 4 * b.coefficient + 2
    omega
  have hvalue : (RoundingInterval.ofBinary b).value = 4 * b.coefficient := rfl
  have hscale : (RoundingInterval.ofBinary b).exponent = b.exponent - 2 := rfl
  generalize RoundingInterval.ofBinary b = r at hlow hhigh hvalue hscale ⊢
  have hlog : Nat.log2 r.value < 55 := Nat.log2_lt (by omega) |>.2 (by omega)
  have hleading := RoundingInterval.ten_zpow_leadingExponent_le (r := r) (by omega) (by omega)
  have hsize : (r.value : ℚ) ≤ 2 ^ 55 := by exact_mod_cast (by omega : r.value ≤ 2 ^ 55)
  have hunit : (0 : ℚ) < 2 ^ r.exponent := by positivity
  apply RoundingInterval.search_holds hlow hhigh
  calc (10 : ℚ) ^ (r.leadingExponent - (17 : Nat)) = 10 ^ r.leadingExponent / 10 ^ 17 := by
        rw [zpow_sub₀ (by norm_num)]
        rfl
    _ ≤ 2 * (2 ^ 55 * 2 ^ r.exponent) / 10 ^ 17 := by gcongr; exact hleading.trans (by gcongr)
    _ ≤ 2 ^ r.exponent := by
        rw [div_le_iff₀ (by norm_num)]
        linarith

end Chartboard
