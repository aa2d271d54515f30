import Mathlib.Algebra.Order.Group.Nat
import Mathlib.Algebra.Order.Ring.Nat
import Mathlib.Data.Nat.Log
import Mathlib.Tactic.Ring

/-!
# Integers rounded to doubles

A double has room for 53 binary digits. An integer with more of them becomes the nearest integer of
which all but the first 53 digits are zero, and of two that are equally near the one whose last
digit is even.
-/

namespace Chartboard

/-! ## Quotients -/

/-- A quotient rounded to the nearest natural number, and to the even one of two that are equally
near. -/
def divNearest (n d : Nat) : Nat :=
  if 2 * (n % d) < d then n / d
  else if d < 2 * (n % d) then n / d + 1
  else n / d + n / d % 2

variable {n m d c : Nat}

/-- A quotient does not change when it is expanded. -/
theorem divNearest_mul_mul (n d : Nat) (hc : 0 < c) :
    divNearest (n * c) (d * c) = divNearest n d := by
  have hdouble : 2 * (n % d * c) = 2 * (n % d) * c := (Nat.mul_assoc _ _ _).symm
  have hbelow : 2 * (n % d) * c < d * c ↔ 2 * (n % d) < d := Nat.mul_lt_mul_right hc
  have habove : d * c < 2 * (n % d) * c ↔ d < 2 * (n % d) := Nat.mul_lt_mul_right hc
  unfold divNearest
  rw [Nat.mul_div_mul_right _ _ hc, Nat.mul_mod_mul_right, hdouble]
  simp only [hbelow, habove]

/-- A quotient that is an integer is not rounded. -/
theorem divNearest_mul (n : Nat) (hd : 0 < d) : divNearest (n * d) d = n := by
  unfold divNearest
  rw [Nat.mul_mod_left, Nat.mul_div_cancel n hd, if_pos (by omega)]

/-- Rounding takes no whole away from a quotient. -/
theorem div_le_divNearest (n d : Nat) : n / d ≤ divNearest n d := by
  unfold divNearest
  split
  · exact Nat.le_refl _
  · split <;> omega

/-- Rounding adds no more than one to the whole of a quotient. -/
theorem divNearest_le (n d : Nat) : divNearest n d ≤ n / d + 1 := by
  unfold divNearest
  split
  · omega
  · split <;> omega

/-- A rounded quotient does not fall when the dividend rises. -/
theorem divNearest_mono (h : n ≤ m) (d : Nat) : divNearest n d ≤ divNearest m d := by
  have hn := Nat.div_add_mod n d
  have hm := Nat.div_add_mod m d
  rcases Nat.lt_or_eq_of_le (Nat.div_le_div_right (c := d) h) with hlt | heq
  · exact (divNearest_le n d).trans (hlt.trans_le (div_le_divNearest m d))
  · -- with equal whole parts the remainders decide
    rw [← heq] at hm
    have hmod : n % d ≤ m % d := by omega
    unfold divNearest
    rw [← heq]
    generalize n / d = q
    split_ifs <;> omega

/-! ## Natural numbers -/

/-- The value of the last of the first 53 binary digits of a number. -/
def unit (n : Nat) : Nat :=
  2 ^ (n.log2 - 52)

/-- The natural number nearest to a number among those that a double has room for. -/
def nearestNat (n : Nat) : Nat :=
  divNearest n (unit n) * unit n

/-- The last of the first 53 binary digits has a positive value. -/
theorem unit_pos (n : Nat) : 0 < unit n :=
  Nat.two_pow_pos _

/-- A number is kept exactly if all but the first 53 of its digits are zero. -/
theorem nearestNat_eq_self_iff : nearestNat n = n ↔ unit n ∣ n := by
  constructor
  · intro h
    exact ⟨divNearest n (unit n), by rw [Nat.mul_comm]; exact h.symm⟩
  · rintro ⟨q, hq⟩
    have hquotient : divNearest n (unit n) = q := by
      have hmul := divNearest_mul q (unit_pos n)
      rwa [Nat.mul_comm, ← hq] at hmul
    unfold nearestNat
    rw [hquotient, Nat.mul_comm, ← hq]

/-- Numbers of at most 53 binary digits are multiples of one. -/
theorem unit_of_lt (h : n < 2 ^ 53) : unit n = 1 := by
  have hlog : n.log2 ≤ 52 := by
    rcases Nat.eq_zero_or_pos n with rfl | hpos
    · decide
    · exact Nat.le_of_lt_succ ((Nat.log2_lt (Nat.ne_of_gt hpos)).2 h)
  unfold unit
  rw [Nat.sub_eq_zero_of_le hlog, Nat.pow_zero]

/-- Numbers of at most 53 binary digits are doubles. -/
theorem nearestNat_of_lt (h : n < 2 ^ 53) : nearestNat n = n := by
  rw [nearestNat_eq_self_iff, unit_of_lt h]
  exact Nat.one_dvd n

/-- A power of two adds as many binary digits as its exponent says. -/
theorem log2_mul_two_pow (hn : n ≠ 0) (k : Nat) : (n * 2 ^ k).log2 = n.log2 + k := by
  induction k with
  | zero => rw [Nat.pow_zero, Nat.mul_one, Nat.add_zero]
  | succ k ih =>
    have hne : n * 2 ^ k ≠ 0 := Nat.mul_ne_zero hn (Nat.ne_of_gt (Nat.two_pow_pos k))
    rw [Nat.pow_succ, ← Nat.mul_assoc, Nat.mul_comm, Nat.log2_two_mul hne, ih, Nat.add_assoc]

/-- A number of 53 digits with zeros behind them is kept. -/
theorem nearestNat_mul_two_pow (h : n < 2 ^ 53) (k : Nat) : nearestNat (n * 2 ^ k) = n * 2 ^ k := by
  rcases Nat.eq_zero_or_pos n with rfl | hpos
  · rw [Nat.zero_mul]
    exact nearestNat_of_lt (by decide)
  · have hlog := (Nat.log2_lt (Nat.ne_of_gt hpos)).2 h
    rw [nearestNat_eq_self_iff, unit, log2_mul_two_pow (Nat.ne_of_gt hpos)]
    exact Nat.dvd_mul_left_of_dvd (Nat.pow_dvd_pow 2 (by omega)) n

/-- A number of at least 53 digits is rounded to 53 of them, or to the first number of one digit
more. -/
theorem divNearest_unit_bounds (h : 52 ≤ n.log2) :
    2 ^ 52 ≤ divNearest n (unit n) ∧ divNearest n (unit n) ≤ 2 ^ 53 := by
  have hn : n ≠ 0 := by
    rintro rfl
    exact absurd h (by decide)
  have hsplit : ∀ k, 2 ^ (n.log2 - 52 + k) = 2 ^ k * unit n := fun k => by
    rw [Nat.pow_add, Nat.mul_comm]
    rfl
  have hlow : 2 ^ 52 * unit n ≤ n := by
    rw [← hsplit, Nat.sub_add_cancel h]
    exact Nat.log2_self_le hn
  have hhigh : n ≤ 2 ^ 53 * unit n := by
    rw [← hsplit, show n.log2 - 52 + 53 = n.log2 + 1 by omega]
    exact Nat.le_of_lt Nat.lt_log2_self
  have hbelow := divNearest_mono hlow (unit n)
  have habove := divNearest_mono hhigh (unit n)
  rw [divNearest_mul _ (unit_pos n)] at hbelow habove
  exact ⟨hbelow, habove⟩

/-- A rounded number lies between the two powers of two that the number lies between. -/
theorem nearestNat_bounds (hn : n ≠ 0) :
    2 ^ n.log2 ≤ nearestNat n ∧ nearestNat n ≤ 2 ^ (n.log2 + 1) := by
  by_cases hlog : 52 ≤ n.log2
  · obtain ⟨hlow, hhigh⟩ := divNearest_unit_bounds hlog
    have hpow : 2 ^ n.log2 = 2 ^ 52 * unit n := by
      unfold unit
      rw [← Nat.pow_add, Nat.add_sub_cancel' hlog]
    rw [Nat.pow_succ, hpow]
    refine ⟨Nat.mul_le_mul_right _ hlow, (Nat.mul_le_mul_right _ hhigh).trans ?_⟩
    omega
  · have hsmall : n < 2 ^ 53 := (Nat.log2_lt hn).1 (by omega)
    rw [nearestNat_of_lt hsmall]
    exact ⟨Nat.log2_self_le hn, Nat.le_of_lt Nat.lt_log2_self⟩

/-- A rounded number does not fall when the number rises. -/
theorem nearestNat_mono (h : n ≤ m) : nearestNat n ≤ nearestNat m := by
  rcases Nat.eq_zero_or_pos n with rfl | hpos
  · exact Nat.zero_le _
  · have hn : n ≠ 0 := Nat.ne_of_gt hpos
    have hm : m ≠ 0 := by omega
    have hlog : n.log2 ≤ m.log2 := (Nat.le_log2 hm).2 ((Nat.log2_self_le hn).trans h)
    rcases Nat.lt_or_eq_of_le hlog with hlt | heq
    · calc nearestNat n ≤ 2 ^ (n.log2 + 1) := (nearestNat_bounds hn).2
        _ ≤ 2 ^ m.log2 := Nat.pow_le_pow_right (by decide) hlt
        _ ≤ nearestNat m := (nearestNat_bounds hm).1
    · have hunit : unit n = unit m := by rw [unit, unit, heq]
      unfold nearestNat
      rw [hunit]
      exact Nat.mul_le_mul_right _ (divNearest_mono h _)

/-! ## Integers -/

/-- The integer nearest to an integer among those that are doubles. -/
def nearest (i : Int) : Int :=
  if i < 0 then -(nearestNat i.natAbs : Int) else nearestNat i.natAbs

/-- Rounding looks at the magnitude alone. -/
theorem natAbs_nearest (i : Int) : (nearest i).natAbs = nearestNat i.natAbs := by
  unfold nearest
  split
  · rw [Int.natAbs_neg, Int.natAbs_natCast]
  · rw [Int.natAbs_natCast]

/-- Rounding integers does not change their order. -/
theorem nearest_mono {i j : Int} (h : i ≤ j) : nearest i ≤ nearest j := by
  unfold nearest
  split
  · split
    · have hmono := nearestNat_mono (n := j.natAbs) (m := i.natAbs) (by omega)
      omega
    · omega
  · rw [if_neg (by omega)]
    have hmono := nearestNat_mono (n := i.natAbs) (m := j.natAbs) (by omega)
    omega

/-- An integer is a double if it has at most 53 binary digits in front of zeros. -/
theorem nearest_eq_self_iff {i : Int} :
    nearest i = i ↔ ∃ m k : Nat, m < 2 ^ 53 ∧ i.natAbs = m * 2 ^ k := by
  have habs : nearest i = i ↔ nearestNat i.natAbs = i.natAbs := by
    unfold nearest
    split <;> omega
  rw [habs]
  constructor
  · intro h
    obtain ⟨q, hq⟩ := nearestNat_eq_self_iff.1 h
    refine ⟨q, i.natAbs.log2 - 52, ?_, by rw [Nat.mul_comm]; exact hq⟩
    have hbound : q * unit i.natAbs < 2 ^ 53 * unit i.natAbs := by
      rw [Nat.mul_comm, ← hq, unit, ← Nat.pow_add]
      exact Nat.lt_log2_self.trans_le (Nat.pow_le_pow_right (by decide) (by omega))
    exact Nat.lt_of_mul_lt_mul_right hbound
  · rintro ⟨m, k, hm, hi⟩
    rw [hi]
    exact nearestNat_mul_two_pow hm k

/-- Integers of a magnitude of at most `2 ^ 53` are doubles. -/
theorem nearest_of_natAbs_le {i : Int} (h : i.natAbs ≤ 2 ^ 53) : nearest i = i := by
  rw [nearest_eq_self_iff]
  rcases Nat.lt_or_eq_of_le h with hlt | heq
  · exact ⟨i.natAbs, 0, hlt, by rw [Nat.pow_zero, Nat.mul_one]⟩
  · exact ⟨1, 53, by decide, by rw [heq, Nat.one_mul]⟩

end Chartboard
