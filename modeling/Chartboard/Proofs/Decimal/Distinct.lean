import Chartboard.Proofs.Decimal.Rounding

/-!
# Distinct doubles have distinct decimals

The intervals of two magnitudes have no number in common: they meet at a bound at most, and of two
neighbours only the one with the even coefficient takes the bound between them. The shortest
decimals of two doubles are therefore equal only if their magnitudes are.
-/

namespace Chartboard

/-! ## Doubles in memory -/

namespace Binary

/-- The magnitude is written as doubles are: 53 bits at most, and all of them in use unless the
exponent is the least one. -/
structure IsCanonical (b : Binary) : Prop where
  /-- The coefficient has 53 bits at most. -/
  coefficient_lt : b.coefficient < 2 ^ 53
  /-- No exponent is below that of the subnormals. -/
  le_exponent : -1074 ≤ b.exponent
  /-- The leading bit is set except for the subnormals. -/
  normal : b.exponent = -1074 ∨ 2 ^ 52 ≤ b.coefficient

/-- Every double is taken apart into its one canonical form. -/
theorem ofFloat_isCanonical (x : Float) : (ofFloat x).IsCanonical := by
  unfold ofFloat
  simp only
  split
  · constructor
    · show _ % _ < _
      omega
    · exact Int.le_refl _
    · exact Or.inl rfl
  · constructor
    · show _ + _ % _ < _
      omega
    · show -1074 ≤ (_ % _ : Nat) - (1075 : Int)
      omega
    · exact Or.inr (Nat.le_add_right _ _)

end Binary

/-- A double is determined by its sign and its magnitude. -/
theorem Double.eq_of_magnitude {x y : Float} (hmagnitude : Binary.ofFloat x = Binary.ofFloat y)
    (hsign : isNegative x = isNegative y) : x = y := by
  have hbits : x.toBits.toNat = y.toBits.toNat := by
    have hx := x.toBits.toNat_lt
    have hy := y.toBits.toNat_lt
    unfold isNegative at hsign
    rw [Bool.eq_iff_iff, beq_iff_eq, beq_iff_eq] at hsign
    unfold Binary.ofFloat at hmagnitude
    simp only at hmagnitude
    generalize x.toBits.toNat = m at hx hsign hmagnitude ⊢
    generalize y.toBits.toNat = n at hy hsign hmagnitude ⊢
    split at hmagnitude
    · split at hmagnitude
      · rw [Binary.mk.injEq] at hmagnitude
        omega
      · rw [Binary.mk.injEq] at hmagnitude
        omega
    · split at hmagnitude
      · rw [Binary.mk.injEq] at hmagnitude
        omega
      · rw [Binary.mk.injEq] at hmagnitude
        omega
  cases x with
  | ofModel m =>
    cases y with
    | ofModel n =>
      cases m
      cases n
      have htoBits := UInt64.toNat_inj.1 hbits
      cases htoBits
      rfl

/-! ## Intervals that meet -/

namespace RoundingInterval

variable {r r' : RoundingInterval} {p : ℚ}

/-- What rounds to a double is not below the lower bound of its interval. -/
theorem Holds.low_le (h : r.Holds p) : r.low * 2 ^ r.exponent ≤ p := by
  unfold Holds at h
  split at h
  · exact h.1
  · exact h.1.le

/-- What rounds to a double is not above the upper bound of its interval. -/
theorem Holds.le_high (h : r.Holds p) : p ≤ r.high * 2 ^ r.exponent := by
  unfold Holds at h
  split at h
  · exact h.2
  · exact h.2.le

/-- Where one of two intervals is open, its bound is not in common. -/
theorem Holds.low_lt_high (h : r.Holds p) (h' : r'.Holds p)
    (hopen : r.closed = false ∨ r'.closed = false) :
    (r'.low : ℚ) * 2 ^ r'.exponent < r.high * 2 ^ r.exponent := by
  rcases hopen with hopen | hopen
  · have hlow := h'.low_le
    unfold Holds at h
    rw [if_neg (by rw [hopen]; decide)] at h
    exact hlow.trans_lt h.2
  · have hhigh := h.le_high
    unfold Holds at h'
    rw [if_neg (by rw [hopen]; decide)] at h'
    exact h'.1.trans_le hhigh

variable {b b' : Binary}

/-- The bounds themselves do not round to a double with an odd coefficient. -/
theorem closed_eq_false (h : b.coefficient % 2 = 1) : (ofBinary b).closed = false := by
  show (b.coefficient % 2 == 0) = false
  rw [h]
  rfl

/-- Of two magnitudes with one exponent, the intervals are apart. -/
theorem not_holds_of_coefficient_lt (hb : b.IsCanonical) (hexponent : b.exponent = b'.exponent)
    (hlt : b.coefficient < b'.coefficient) (h : (ofBinary b).Holds p) :
    ¬ (ofBinary b').Holds p := by
  intro h'
  have hlow : (ofBinary b').low + 2 = 4 * b'.coefficient := by
    have hnormal := hb.normal
    unfold ofBinary
    simp only
    rw [if_neg (by omega)]
    omega
  have hscale : (ofBinary b').exponent = (ofBinary b).exponent := by
    show b'.exponent - 2 = b.exponent - 2
    rw [hexponent]
  have hhigh : (ofBinary b).high = 4 * b.coefficient + 2 := rfl
  have hunit : (0 : ℚ) < 2 ^ (ofBinary b).exponent := by positivity
  have hmeet := h'.low_le.trans h.le_high
  rw [hscale, mul_le_mul_iff_left₀ hunit, Nat.cast_le] at hmeet
  -- neighbours share a bound, which the odd one of them does not hold
  have hopen : (ofBinary b).closed = false ∨ (ofBinary b').closed = false := by
    rcases Nat.mod_two_eq_zero_or_one b.coefficient with heven | hodd
    · exact Or.inr (closed_eq_false (by omega))
    · exact Or.inl (closed_eq_false hodd)
  have hstrict := h.low_lt_high h' hopen
  rw [hscale, mul_lt_mul_iff_left₀ hunit, Nat.cast_lt] at hstrict
  omega

/-- Of two magnitudes with different exponents, the intervals are apart. -/
theorem not_holds_of_exponent_lt (hb : b.IsCanonical) (hb' : b'.IsCanonical)
    (hlt : b.exponent < b'.exponent) (h : (ofBinary b).Holds p) : ¬ (ofBinary b').Holds p := by
  intro h'
  have hleast := hb.le_exponent
  have hsize := hb.coefficient_lt
  have hlow : 2 ^ 54 - 1 ≤ (ofBinary b').low := by
    have hnormal := hb'.normal
    unfold ofBinary
    simp only
    split
    · omega
    · omega
  have hhigh : (ofBinary b).high = 4 * b.coefficient + 2 := rfl
  have hunit : (0 : ℚ) < 2 ^ (ofBinary b).exponent := by positivity
  have hdouble : 2 * 2 ^ (ofBinary b).exponent ≤ (2 : ℚ) ^ (ofBinary b').exponent := by
    have hexponent : (ofBinary b).exponent + 1 ≤ (ofBinary b').exponent := by
      show b.exponent - 2 + 1 ≤ b'.exponent - 2
      omega
    rw [mul_comm, ← zpow_add_one₀ (by norm_num)]
    exact zpow_le_zpow_right₀ (by norm_num) hexponent
  have hscaled : ((2 * (ofBinary b').low : Nat) : ℚ) * 2 ^ (ofBinary b).exponent ≤
      (ofBinary b').low * 2 ^ (ofBinary b').exponent := by
    have hmul := mul_le_mul_of_nonneg_left hdouble (Nat.cast_nonneg (ofBinary b').low)
    push_cast
    linarith
  have hmeet := hscaled.trans (h'.low_le.trans h.le_high)
  rw [mul_le_mul_iff_left₀ hunit, Nat.cast_le] at hmeet
  -- the greatest coefficient is odd, so the bound below a power of two is not its own
  have hodd : b.coefficient % 2 = 1 := by omega
  have hstrict := hscaled.trans_lt (h.low_lt_high h' (Or.inl (closed_eq_false hodd)))
  rw [mul_lt_mul_iff_left₀ hunit, Nat.cast_lt] at hstrict
  omega

/-- A number rounds to one magnitude only. -/
theorem eq_of_holds (hb : b.IsCanonical) (hb' : b'.IsCanonical) (h : (ofBinary b).Holds p)
    (h' : (ofBinary b').Holds p) : b = b' := by
  rcases Int.lt_trichotomy b.exponent b'.exponent with hlt | hexponent | hgt
  · exact absurd h' (not_holds_of_exponent_lt hb hb' hlt h)
  · rcases Nat.lt_trichotomy b.coefficient b'.coefficient with hlt | hcoefficient | hgt
    · exact absurd h' (not_holds_of_coefficient_lt hb hexponent hlt h)
    · rw [Binary.mk.injEq]
      exact ⟨hcoefficient, hexponent⟩
    · exact absurd h (not_holds_of_coefficient_lt hb' hexponent.symm hgt h')
  · exact absurd h (not_holds_of_exponent_lt hb' hb hgt h')

/-- What rounds to a positive double is positive. -/
theorem Holds.pos (hb : 0 < b.coefficient) (h : (ofBinary b).Holds p) : 0 < p := by
  have hlow : 0 < (ofBinary b).low := by
    unfold ofBinary
    simp only
    split
    · omega
    · omega
  have hbound : (0 : ℚ) < (ofBinary b).low * 2 ^ (ofBinary b).exponent :=
    mul_pos (by exact_mod_cast hlow) (by positivity)
  exact hbound.trans_le h.low_le

end RoundingInterval

/-! ## Shortest decimals -/

namespace Decimal

/-- A zero is written as a zero. -/
theorem value_shortest_eq_zero {x : Float} (h : (Binary.ofFloat x).coefficient = 0) :
    (shortest x).value = 0 := by
  unfold shortest
  simp only
  rw [if_pos h]
  simp [value]

/-- A double that is not zero is not written as a zero. -/
theorem value_shortest_pos {x : Float} (h : 0 < (Binary.ofFloat x).coefficient) :
    0 < (shortest x).value :=
  (shortest_holds x h).pos h

/-- The shortest decimals of doubles have one value only if the doubles have one magnitude. -/
theorem ofFloat_eq_of_value_shortest {x y : Float} (h : (shortest x).value = (shortest y).value) :
    Binary.ofFloat x = Binary.ofFloat y := by
  have hx := Binary.ofFloat_isCanonical x
  have hy := Binary.ofFloat_isCanonical y
  rcases Nat.eq_zero_or_pos (Binary.ofFloat x).coefficient with hzero | hpos
  · rcases Nat.eq_zero_or_pos (Binary.ofFloat y).coefficient with hzero' | hpos'
    · have hleast := hx.normal
      have hleast' := hy.normal
      rw [Binary.mk.injEq]
      omega
    · have hvalue := value_shortest_pos hpos'
      rw [← h, value_shortest_eq_zero hzero] at hvalue
      exact absurd hvalue (lt_irrefl 0)
  · rcases Nat.eq_zero_or_pos (Binary.ofFloat y).coefficient with hzero' | hpos'
    · have hvalue := value_shortest_pos hpos
      rw [h, value_shortest_eq_zero hzero'] at hvalue
      exact absurd hvalue (lt_irrefl 0)
    · have hholds := shortest_holds y hpos'
      rw [← h] at hholds
      exact RoundingInterval.eq_of_holds hx hy (shortest_holds x hpos) hholds

end Decimal

end Chartboard
