import Chartboard.Proofs.Decimal.Ordered
import Chartboard.Proofs.Decimal.Packing
import Chartboard.Proofs.Decimal.Significand
import Mathlib.Tactic.FieldSimp
import Mathlib.Tactic.Ring

/-!
# Doubles that are integers

A double that is made from an integer is the nearest one, and the sum of two doubles that are
integers is the double nearest to their sum. Such doubles are compared as the integers, and they are
turned back into them.
-/

namespace Chartboard.Double

open Float.Model Float.Model.UnpackedFloat

/-! ## Rounding -/

/-- A floating point number is an integer: zero, or a significand of 53 digits at a place where the
doubles have room for it. -/
inductive Whole : UnpackedFloat → Int → Prop where
  /-- Both zeros are. -/
  | zero (s : Sign) : Whole (.zero s) 0
  /-- The value is the significand times a power of two. -/
  | finite {s : Sign} {m : Nat} {e : Int} {hpos : 0 < m} {i : Int} (low : 2 ^ 52 ≤ m)
    (high : m < 2 ^ 53) (least : -1074 ≤ e) (greatest : e ≤ 971)
    (value : (s.apply m : ℚ) * 2 ^ e = i) : Whole (.finite s m e hpos) i

variable {u v : UnpackedFloat} {i j : Int}

/-- A significand with an exponent that is a natural number is rounded to the nearest one. -/
theorem whole_roundWithAccuracy (s : Sign) {m n : Nat} {e : Int} (hm : 52 ≤ m.log2) (hn : n ≠ 0)
    (hsize : n < 2 ^ 1023) (hvalue : (m : ℚ) * 2 ^ e = n) :
    Whole (roundWithAccuracy Format.binary64 s m e .exact) (s.apply (nearestNat n)) := by
  have hm0 : m ≠ 0 := by
    rintro rfl
    exact absurd hm (by decide)
  have hlog := log2_add_exponent hm0 hn hvalue
  have hnearest := divNearest_value hm hn hvalue
  have hdigits := (Nat.log2_lt hn).2 hsize
  obtain ⟨m', hpos, k, hk, hlow, hhigh, hround, hexact⟩ :=
    roundWithAccuracy_eq s (e := e) hm (by omega)
  have hmagnitude : (m' : ℚ) * 2 ^ ((m.log2 : Int) - 52 + e + k) = nearestNat n := by
    rw [← hnearest, ← hexact, zpow_add₀ (by norm_num), zpow_natCast]
    push_cast
    ring
  rw [hround]
  refine .finite hlow hhigh (by omega) (by omega) ?_
  cases s with
  | positive => exact hmagnitude
  | negative =>
    show (-(m' : Int) : Int) * _ = ((-(nearestNat n : Int) : Int) : ℚ)
    rw [Int.cast_neg, Int.cast_neg, neg_mul]
    exact congrArg Neg.neg hmagnitude

/-- A significand with few digits is shifted to 53 of them first. -/
theorem whole_round (s : Sign) {m n : Nat} {e : Int} (hm : m ≠ 0) (hn : n ≠ 0)
    (hsize : n < 2 ^ 1023) (hvalue : (m : ℚ) * 2 ^ e = n) :
    Whole (UnpackedFloat.round Format.binary64 s m e) (s.apply (nearestNat n)) := by
  have hlog := log2_add_exponent hm hn hvalue
  have htarget := targetExponent_binary64 (m := m) (e := e) (by omega)
  have hamount : (e - ((m.log2 : Int) - 52 + e)).toNat = 52 - m.log2 := by omega
  have hwide : 52 ≤ (m <<< (52 - m.log2)).log2 := by
    rw [Nat.shiftLeft_eq, log2_mul_two_pow hm]
    omega
  have hshifted :
      ((m <<< (52 - m.log2) : Nat) : ℚ) * 2 ^ (e - ((52 - m.log2 : Nat) : Int)) = n := by
    rw [Nat.shiftLeft_eq, ← hvalue, zpow_sub₀ (by norm_num), zpow_natCast]
    push_cast
    field_simp
  unfold UnpackedFloat.round decreaseExponent
  simp only [htarget, hamount]
  exact whole_roundWithAccuracy s hwide hn hsize hshifted

/-- What is normalized is the nearest integer that is a double. -/
theorem whole_normalize {m e : Int} (s : Sign) (hsize : i.natAbs < 2 ^ 1023)
    (hvalue : (m : ℚ) * 2 ^ e = i) :
    Whole (UnpackedFloat.normalize Format.binary64 m e s) (nearest i) := by
  have hpow : (0 : ℚ) < 2 ^ e := by positivity
  have hmagnitude : (m.natAbs : ℚ) * 2 ^ e = i.natAbs := by
    rw [Nat.cast_natAbs, Nat.cast_natAbs, Int.cast_abs, Int.cast_abs, ← hvalue, abs_mul,
      abs_of_pos hpow]
  unfold UnpackedFloat.normalize
  rcases lt_trichotomy m 0 with hneg | rfl | hpos
  · have hi : i < 0 := by
      have hlt : (m : ℚ) * 2 ^ e < 0 := mul_neg_of_neg_of_pos (by exact_mod_cast hneg) hpow
      rw [hvalue] at hlt
      exact_mod_cast hlt
    have hnat : (-m).toNat = m.natAbs := by omega
    rw [compare_lt_iff_lt.2 hneg, nearest, if_pos hi, hnat]
    exact whole_round .negative (by omega) (by omega) hsize hmagnitude
  · have hi : i = 0 := by
      rw [Int.cast_zero, zero_mul] at hvalue
      exact_mod_cast hvalue.symm
    rw [compare_eq_iff_eq.2 rfl, hi]
    exact .zero s
  · have hi : 0 < i := by
      have hlt : 0 < (m : ℚ) * 2 ^ e := mul_pos (by exact_mod_cast hpos) hpow
      rw [hvalue] at hlt
      exact_mod_cast hlt
    have hnat : m.toNat = m.natAbs := by omega
    rw [compare_gt_iff_gt.2 hpos, nearest, if_neg (by omega), hnat]
    exact whole_round .positive (by omega) (by omega) hsize hmagnitude

/-- The magnitude has the value of the number without its sign. -/
theorem magnitude_value {s : Sign} {m : Nat} {e : Int} (h : (s.apply m : ℚ) * 2 ^ e = i) :
    (m : ℚ) * 2 ^ e = i.natAbs := by
  have hpow : (0 : ℚ) < 2 ^ e := by positivity
  have habs : (s.apply m).natAbs = m := by cases s <;> simp [Sign.apply]
  rw [Nat.cast_natAbs, Int.cast_abs, ← h, abs_mul, abs_of_pos hpow, ← Int.cast_abs,
    ← Nat.cast_natAbs, habs]

/-- An integer that is a double is its own nearest double. -/
theorem Whole.nearest_eq (h : Whole u i) : nearest i = i := by
  cases h with
  | zero s => rfl
  | @finite s m e hpos _ hlow hhigh hleast hgreatest hvalue =>
    rw [nearest_eq_self_iff]
    rcases exists_zeros (magnitude_value hvalue) with ⟨k, -, hnat⟩ | ⟨k, -, hnat⟩
    · exact ⟨m, k, hhigh, hnat⟩
    · have hle : i.natAbs ≤ m := by
        rw [hnat]
        exact Nat.le_mul_of_pos_right _ (Nat.two_pow_pos k)
      exact ⟨i.natAbs, 0, by omega, by rw [Nat.pow_zero, Nat.mul_one]⟩

/-- Nothing is lost when an integer is packed. -/
theorem Whole.unpack_pack (h : Whole u i) :
    UnpackedFloat.unpack Format.binary64 (UnpackedFloat.pack Format.binary64 u) = u := by
  cases h with
  | zero s => exact unpack_pack_zero s
  | finite hlow hhigh hleast hgreatest _ => exact unpack_pack_finite hlow hhigh hleast hgreatest

/-! ## Operations -/

/-- The opposite of an integer is an integer. -/
theorem Whole.neg (h : Whole u i) : Whole u.neg (-i) := by
  cases h with
  | zero s => exact .zero (-s)
  | @finite s m e hpos _ hlow hhigh hleast hgreatest hvalue =>
    refine .finite hlow hhigh hleast hgreatest ?_
    have hsign : (-s).apply m = -s.apply m := by cases s <;> simp [Sign.apply]
    rw [hsign, Int.cast_neg, Int.cast_neg, neg_mul, hvalue]

/-- The magnitude of an integer with the sign of its significand is the integer. -/
theorem apply_natAbs {s : Sign} {m : Nat} {e : Int} (h : (s.apply m : ℚ) * 2 ^ e = i) :
    s.apply i.natAbs = i := by
  have hmagnitude := magnitude_value h
  have hsigned : ((s.apply i.natAbs : Int) : ℚ) = i := by
    rw [← h]
    cases s with
    | positive => exact hmagnitude.symm
    | negative =>
      show ((-(i.natAbs : Int) : Int) : ℚ) = ((-(m : Int) : Int) : ℚ) * 2 ^ e
      rw [Int.cast_neg, Int.cast_neg, neg_mul]
      exact congrArg Neg.neg hmagnitude.symm
  exact_mod_cast hsigned

/-- The double one, as it is multiplied with. -/
theorem Whole.mul_one (h : Whole u i) (hsize : i.natAbs < 2 ^ 1023) :
    Whole (UnpackedFloat.mul Format.binary64 u (.finite .positive (2 ^ 52) (-52) (by decide)))
      i := by
  have hself := h.nearest_eq
  cases h with
  | zero s => exact .zero _
  | @finite s m e hpos _ hlow hhigh hleast hgreatest hvalue =>
    have hmagnitude := magnitude_value hvalue
    have hnearest : nearestNat i.natAbs = i.natAbs := by
      rw [← natAbs_nearest, hself]
    have hne : i.natAbs ≠ 0 := by
      have hpositive : (0 : ℚ) < m * 2 ^ e := mul_pos (by exact_mod_cast hpos) (by positivity)
      rw [hmagnitude] at hpositive
      exact_mod_cast hpositive.ne'
    have hwide : 52 ≤ (m * 2 ^ 52).log2 := by
      rw [log2_mul_two_pow (by omega)]
      omega
    have hscaled : ((m * 2 ^ 52 : Nat) : ℚ) * 2 ^ (e + -52) = i.natAbs := by
      rw [← hmagnitude, zpow_add₀ (by norm_num)]
      push_cast
      norm_num
      ring
    have hround := whole_roundWithAccuracy s hwide hne hsize hscaled
    rw [hnearest, apply_natAbs hvalue] at hround
    have hsign : s * .positive = s := by cases s <;> rfl
    show Whole (roundWithAccuracy Format.binary64 (s * .positive) _ _ .exact) i
    rw [hsign]
    exact hround

/-- A significand that is shifted to a lower exponent has the same value there. -/
theorem shiftLeft_value (s : Sign) (m : Nat) {e e' : Int} (h : e' ≤ e) :
    ((s.apply ((m <<< (e - e').toNat : Nat) : Int) : Int) : ℚ) * 2 ^ e' =
      (s.apply m : ℚ) * 2 ^ e := by
  obtain ⟨k, rfl⟩ := Int.exists_add_of_le h
  have hamount : (e' + k - e').toNat = k := by omega
  have hsign : s.apply ((m * 2 ^ k : Nat) : Int) = s.apply m * 2 ^ k := by
    cases s <;> simp [Sign.apply]
  rw [hamount, Nat.shiftLeft_eq, hsign, zpow_add₀ (by norm_num), zpow_natCast]
  push_cast
  ring

/-- The sum of two integers is rounded once. -/
theorem Whole.add (hu : Whole u i) (hv : Whole v j) (hsize : (i + j).natAbs < 2 ^ 1023) :
    Whole (UnpackedFloat.add Format.binary64 u v) (nearest (i + j)) := by
  have hi := hu.nearest_eq
  have hj := hv.nearest_eq
  cases hu with
  | zero s =>
    rw [Int.zero_add, hj]
    cases hv with
    | zero s' =>
      show Whole (if s == s' then .zero s else .zero .positive) 0
      split
      · exact .zero s
      · exact .zero .positive
    | finite hlow hhigh hleast hgreatest hvalue =>
      exact .finite hlow hhigh hleast hgreatest hvalue
  | @finite s m e hpos _ hlow hhigh hleast hgreatest hvalue =>
    cases hv with
    | zero s' =>
      rw [Int.add_zero, hi]
      exact .finite hlow hhigh hleast hgreatest hvalue
    | @finite s' m' e' hpos' _ hlow' hhigh' hleast' hgreatest' hvalue' =>
      refine whole_normalize .positive hsize ?_
      rw [Int.cast_add, add_mul, shiftLeft_value s m (Int.min_le_left e e'),
        shiftLeft_value s' m' (Int.min_le_right e e'), hvalue, hvalue', Int.cast_add]

/-! ## Doubles -/

/-- A double is an integer. -/
def IsInt (x : Float) (i : Int) : Prop :=
  Whole x.toModel.unpack i

variable {x y : Float}

/-- A packed integer is one. -/
theorem isInt_pack (h : Whole u i) : IsInt (Float.ofModel (Float.Model.pack u)) i := by
  show Whole (UnpackedFloat.unpack Format.binary64 (UnpackedFloat.pack Format.binary64 u)) i
  rw [h.unpack_pack]
  exact h

/-- Zero is an integer. -/
theorem isInt_zero : IsInt 0.0 0 := by
  have hunpack : (0.0 : Float).toModel.unpack = .zero .positive := by with_unfolding_all rfl
  unfold IsInt
  rw [hunpack]
  exact .zero .positive

/-- The opposite of an integral double is integral. -/
theorem IsInt.neg (h : IsInt x i) : IsInt (-x) (-i) :=
  isInt_pack (Whole.neg h)

/-- The sum of two integral doubles is the integer nearest to their sum. -/
theorem IsInt.add (hx : IsInt x i) (hy : IsInt y j) (hsize : (i + j).natAbs < 2 ^ 1023) :
    IsInt (x + y) (nearest (i + j)) :=
  isInt_pack (Whole.add hx hy hsize)

/-- An unsigned integer of at most 53 binary digits becomes the same double. -/
theorem isInt_ofUInt64 {n : Nat} (h : n < 2 ^ 53) : IsInt n.toUInt64.toFloat n := by
  have hnat : n.toUInt64.toNat = n := by
    show n % 2 ^ 64 = n
    omega
  have hself : nearest (n : Int) = n := nearest_of_natAbs_le (by omega)
  have hvalue : (((n.toUInt64.toNat : Nat) : Int) : ℚ) * 2 ^ (0 : Int) = (n : Int) := by
    rw [hnat, zpow_zero, mul_one]
  have hwhole := whole_normalize .positive (i := n) (by omega) hvalue
  rw [hself] at hwhole
  exact isInt_pack hwhole

/-- A natural number that is read becomes the nearest one among the doubles. -/
theorem whole_ofScientific {n : Nat} (hn : n ≠ 0) (hsize : n < 2 ^ 1023) :
    Whole (UnpackedFloat.ofScientific Format.binary64 n 0) (nearestNat n) := by
  have hwide : 52 ≤ ((n <<< 53) * 10 ^ 0).log2 := by
    rw [Nat.shiftLeft_eq, Nat.pow_zero, Nat.mul_one, log2_mul_two_pow hn]
    omega
  have hvalue : (((n <<< 53) * 10 ^ 0 : Nat) : ℚ) * 2 ^ (-53 + 0 : Int) = n := by
    rw [Nat.shiftLeft_eq]
    push_cast
    norm_num
    ring
  have hround := whole_roundWithAccuracy .positive hwide hn hsize hvalue
  have hbits : (2 : Int) ^ Format.binary64.exponentBits = 2048 := rfl
  unfold UnpackedFloat.ofScientific
  rw [dif_neg hn, if_neg (by omega), if_neg (by omega), if_pos (Int.le_refl 0)]
  exact hround

/-- Up to 53 digits a number is converted as it is, and then multiplied by one. -/
theorem isInt_ofNat {n : Nat} (hsize : n < 2 ^ 1023) : IsInt (Float.ofNat n) (nearestNat n) := by
  show IsInt (Float.ofScientific n false 0) (nearestNat n)
  unfold Float.ofScientific
  split
  · next hsmall =>
    have hone : Float.exactlyRepresentablePowersOfTen[0].toModel.unpack =
        .finite .positive (2 ^ 52) (-52) (by decide) := by with_unfolding_all rfl
    have hmul := Whole.mul_one (isInt_ofUInt64 hsmall.1) (by omega)
    rw [← hone] at hmul
    rw [nearestNat_of_lt hsmall.1]
    exact isInt_pack hmul
  · next hlarge => exact isInt_pack (whole_ofScientific (by omega) hsize)

/-- The double of an integer is the nearest one. -/
theorem isInt_ofInt (hsize : i.natAbs < 2 ^ 1023) : IsInt (Float.ofInt i) (nearest i) := by
  cases i with
  | ofNat n => exact isInt_ofNat hsize
  | negSucc n =>
    have hneg : nearest (Int.negSucc n) = -(nearestNat (n + 1) : Int) := by
      rw [nearest, if_pos (Int.negSucc_lt_zero n)]
      rfl
    rw [hneg]
    exact (isInt_ofNat hsize).neg

/-! ## Back to integers -/

/-- A magnitude that is a natural number is taken for it. -/
theorem floor_of_value {m n : Nat} {e : Int} (hvalue : (m : ℚ) * 2 ^ e = n) :
    (⟨m, e⟩ : Binary).isWhole ∧ (⟨m, e⟩ : Binary).floor = n := by
  unfold Binary.isWhole Binary.floor
  simp only [Nat.pow_eq]
  rcases exists_zeros hvalue with ⟨k, rfl, rfl⟩ | ⟨k, rfl, rfl⟩
  · rw [if_pos (Int.natCast_nonneg k), decide_eq_true (Int.natCast_nonneg k), Int.toNat_natCast]
    exact ⟨rfl, rfl⟩
  · rw [Int.neg_neg, Int.toNat_natCast, Nat.mul_mod_left,
      Nat.mul_div_cancel _ (Nat.two_pow_pos k)]
    refine ⟨Bool.or_true _, ?_⟩
    split
    · next hk =>
      rw [show k = 0 by omega, Nat.pow_zero, Nat.mul_one]
      exact Nat.mul_one n
    · rfl

/-- A double that is an integer is turned back into it. -/
theorem IsInt.toInt? (h : IsInt x i) : Double.toInt? x = some i := by
  unfold IsInt at h
  have hfinite : x.isFinite = x.toModel.unpack.isFinite := rfl
  unfold Double.toInt?
  dsimp only
  rw [hfinite]
  generalize hu : x.toModel.unpack = u at h ⊢
  cases h with
  | zero s =>
    have hzero : ((0 : Nat) : ℚ) * 2 ^ (-1074 : Int) = (0 : Nat) := by rw [Nat.cast_zero, zero_mul]
    obtain ⟨hwhole, hfloor⟩ := floor_of_value hzero
    rw [ofFloat_of_zero hu, hwhole, hfloor]
    cases isNegative x <;> rfl
  | @finite s m e hpos _ hlow hhigh hleast hgreatest hvalue =>
    obtain ⟨hmagnitude, hsign⟩ := ofFloat_of_finite hu hlow
    obtain ⟨hwhole, hfloor⟩ := floor_of_value (magnitude_value hvalue)
    have happly := apply_natAbs hvalue
    rw [hmagnitude, hsign, hwhole, hfloor]
    cases s with
    | positive => exact congrArg some happly
    | negative => exact congrArg some happly

/-- An integral double is a number. -/
theorem IsInt.isNaN (h : IsInt x i) : x.isNaN = false := by
  unfold IsInt at h
  show x.toModel.unpack.isNaN = false
  generalize x.toModel.unpack = u at h
  cases h <;> rfl

/-! ## Order -/

/-- Of two significands of 53 digits the one with the lesser value has the lesser exponent, or is
the lesser one. -/
theorem parts_lt_of_value_lt {m m' : Nat} {e e' : Int} (hlow : 2 ^ 52 ≤ m) (hhigh : m' < 2 ^ 53)
    (h : (m : ℚ) * 2 ^ e < m' * 2 ^ e') :
    toLex (e, (m : Int)) < toLex (e', (m' : Int)) := by
  rw [Prod.Lex.toLex_lt_toLex]
  rcases lt_trichotomy e e' with hlt | rfl | hgt
  · exact Or.inl hlt
  · have hpow : (0 : ℚ) < 2 ^ e := by positivity
    have hless : (m : ℚ) < m' := lt_of_mul_lt_mul_right h hpow.le
    have hnat : (m : Int) < m' := by exact_mod_cast hless
    exact Or.inr ⟨rfl, hnat⟩
  · exfalso
    have hlow' : (2 ^ 52 : ℚ) ≤ m := by exact_mod_cast hlow
    have hhigh' : (m' : ℚ) ≤ 2 ^ 53 := by exact_mod_cast hhigh.le
    have hbelow : (m' : ℚ) * 2 ^ e' ≤ m * 2 ^ e := by
      calc (m' : ℚ) * 2 ^ e' ≤ 2 ^ 53 * 2 ^ e' := by gcongr
        _ = 2 ^ 52 * 2 ^ (e' + 1) := by
            rw [zpow_add_one₀ (by norm_num)]
            ring
        _ ≤ m * 2 ^ e := by
            gcongr
            · norm_num
            · omega
    exact absurd h hbelow.not_gt

/-- The lesser of two integers has the lesser place among the doubles. -/
theorem Whole.place_lt (hu : Whole u i) (hv : Whole v j) (h : i < j) : place u < place v := by
  have hapart : ∀ {s t : Int} (a b : Int ×ₗ Int), s < t → toLex (s, a) < toLex (t, b) :=
    fun _ _ hlt => Prod.Lex.toLex_lt_toLex.2 (.inl hlt)
  have hsame : ∀ (s : Int) {a b : Int ×ₗ Int}, a < b → toLex (s, a) < toLex (s, b) :=
    fun _ _ _ hlt => Prod.Lex.toLex_lt_toLex.2 (.inr ⟨rfl, hlt⟩)
  cases hu with
  | zero s =>
    cases hv with
    | zero s' => exact absurd h (lt_irrefl 0)
    | @finite s' m' e' hpos' _ hlow' hhigh' hleast' hgreatest' hvalue' =>
      have happly := apply_natAbs hvalue'
      cases s' with
      | positive => exact hapart _ _ (by decide)
      | negative =>
        change -(j.natAbs : Int) = j at happly
        omega
  | @finite s m e hpos _ hlow hhigh hleast hgreatest hvalue =>
    have happly := apply_natAbs hvalue
    have hmagnitude := magnitude_value hvalue
    cases hv with
    | zero s' =>
      cases s with
      | positive =>
        change (i.natAbs : Int) = i at happly
        omega
      | negative => exact hapart _ _ (by decide)
    | @finite s' m' e' hpos' _ hlow' hhigh' hleast' hgreatest' hvalue' =>
      have happly' := apply_natAbs hvalue'
      have hmagnitude' := magnitude_value hvalue'
      cases s with
      | positive =>
        change (i.natAbs : Int) = i at happly
        cases s' with
        | positive =>
          change (j.natAbs : Int) = j at happly'
          have hnat : i.natAbs < j.natAbs := by omega
          have hless : (i.natAbs : ℚ) < j.natAbs := by exact_mod_cast hnat
          rw [← hmagnitude, ← hmagnitude'] at hless
          exact hsame 1 (parts_lt_of_value_lt hlow hhigh' hless)
        | negative =>
          change -(j.natAbs : Int) = j at happly'
          omega
      | negative =>
        change -(i.natAbs : Int) = i at happly
        cases s' with
        | positive => exact hapart _ _ (by decide)
        | negative =>
          change -(j.natAbs : Int) = j at happly'
          have hnat : j.natAbs < i.natAbs := by omega
          have hless : (j.natAbs : ℚ) < i.natAbs := by exact_mod_cast hnat
          rw [← hmagnitude, ← hmagnitude'] at hless
          have hparts := parts_lt_of_value_lt hlow' hhigh hless
          exact hsame (-1) (compares_neg (o := .gt) hparts)

/-- Doubles that are integers are compared as these. -/
theorem IsInt.le_of_not_lt (hx : IsInt x i) (hy : IsInt y j) (h : ¬y < x) : i ≤ j := by
  by_contra hnot
  rw [lt_iff hy.isNaN hx.isNaN] at h
  exact h (Whole.place_lt hy hx (not_le.1 hnot))

/-- Integral doubles are in the order of their integers. -/
theorem IsInt.le_of_lt (hx : IsInt x i) (hy : IsInt y j) (h : x < y) : i ≤ j :=
  hx.le_of_not_lt hy (not_lt_of_lt hx.isNaN hy.isNaN h)

end Chartboard.Double
