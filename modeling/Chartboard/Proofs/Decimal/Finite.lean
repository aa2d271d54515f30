import Chartboard.Decimal.Basic
import Mathlib.Tactic.ByContra
import Mathlib.Tactic.SplitIfs

/-!
# Finite doubles

A double whose exponent bits are all set is infinite or not a number, and every other double is
finite. A sum is finite only if both of its parts are, and every double that is a number equals
itself.
-/

namespace Chartboard.Double

open Float.Model Float.Model.UnpackedFloat

/-- The exponent bits of a double in memory. -/
def exponentBits (x : Float) : BitVec 11 :=
  @unpackExponent Format.binary64 x.toModel.toBits.toBitVec

/-- What holds of the results of both branches holds of the result. -/
theorem of_branches {p : Prop} [Decidable p] (q : UnpackedFloat → Prop) {a : p → UnpackedFloat}
    {b : ¬p → UnpackedFloat} (ha : ∀ h, q (a h)) (hb : ∀ h, q (b h)) :
    q (if h : p then a h else b h) := by
  split
  · next h => exact ha h
  · next h => exact hb h

/-- A double is finite unless all its exponent bits are set. -/
theorem isFinite_iff (x : Float) : x.isFinite ↔ exponentBits x ≠ -1#11 := by
  show (UnpackedFloat.unpack Format.binary64 x.toModel.toBits.toBitVec).isFinite = true ↔ _
  refine iteInduction
    (motive := fun u : UnpackedFloat => u.isFinite = true ↔ exponentBits x ≠ -1#11)
    (fun hbits => ?_) (fun hbits => ?_)
  · refine iff_of_false ?_ fun hne => hne hbits
    exact iteInduction (motive := (¬UnpackedFloat.isFinite · = true))
      (fun _ => Bool.false_ne_true) (fun _ => Bool.false_ne_true)
  · refine iff_of_true ?_ hbits
    refine iteInduction (motive := (UnpackedFloat.isFinite · = true)) (fun _ => ?_) (fun _ => rfl)
    exact of_branches (·.isFinite = true) (fun _ => rfl) (fun _ => rfl)

/-- What is packed as an infinity or as no number is not finite. -/
theorem not_isFinite_pack {u : UnpackedFloat} (h : u.isFinite = false) :
    (Float.ofModel (pack u)).isFinite = false := by
  rw [← Bool.not_eq_true, isFinite_iff, not_not]
  show @unpackExponent Format.binary64 (UnpackedFloat.pack Format.binary64 u) = -1#11
  cases u with
  | infinity s => exact unpackExponent_packComponents
  | notANumber => exact unpackExponent_packComponents
  | zero s => cases h
  | finite s m e hm => cases h

/-- What is not finite does not become so by an addition. -/
theorem not_isFinite_add {u v : UnpackedFloat} (h : u.isFinite = false) :
    (UnpackedFloat.add Format.binary64 u v).isFinite = false := by
  cases u with
  | infinity s =>
    cases v with
    | infinity s' =>
      show (if s == s' then UnpackedFloat.infinity s else .notANumber).isFinite = false
      split_ifs
      · rfl
      · rfl
    | notANumber => rfl
    | zero s' => rfl
    | finite s' m e hm => rfl
  | notANumber => rfl
  | zero s => cases h
  | finite s m e hm => cases h

/-- The first part of a finite sum is finite. -/
theorem isFinite_of_add {x y : Float} (h : (x + y).isFinite) : x.isFinite := by
  by_contra hx
  rw [Bool.not_eq_true] at hx
  have hsum : (x + y).isFinite = false := not_isFinite_pack (not_isFinite_add hx)
  rw [hsum] at h
  cases h

/-! ## Doubles that are numbers -/

/-- Bits stand for a number unless all bits of the exponent are set and one of the significand
is. -/
theorem isNaN_unpack {b : BitVec Format.binary64.numBits}
    (h : unpackExponent b ≠ -1#_ ∨ unpackMantissa b = 0#_) :
    (UnpackedFloat.unpack Format.binary64 b).isNaN = false := by
  refine iteInduction (motive := (UnpackedFloat.isNaN · = false)) (fun hexponent => ?_)
    (fun _ => ?_)
  · refine iteInduction (motive := (UnpackedFloat.isNaN · = false)) (fun _ => rfl)
      (fun hmantissa => ?_)
    rcases h with h | h
    · exact absurd hexponent h
    · exact absurd h hmantissa
  · refine iteInduction (motive := (UnpackedFloat.isNaN · = false)) (fun _ => ?_) (fun _ => rfl)
    exact of_branches (·.isNaN = false) (fun _ => rfl) (fun _ => rfl)

/-- What is packed as a number is one. -/
theorem isNaN_pack {u : UnpackedFloat} (h : u.isNaN = false) :
    (Float.ofModel (pack u)).isNaN = false := by
  show (UnpackedFloat.unpack Format.binary64 (UnpackedFloat.pack Format.binary64 u)).isNaN = false
  apply isNaN_unpack
  cases u with
  | notANumber => cases h
  | infinity s => exact Or.inr unpackMantissa_packComponents
  | zero s => exact Or.inr unpackMantissa_packComponents
  | finite s m e hm =>
    unfold UnpackedFloat.pack
    simp only
    split_ifs with hlarge hnormal
    · exact Or.inr unpackMantissa_packComponents
    · left
      rw [unpackExponent_packComponents]
      intro hbits
      have hnat := congrArg BitVec.toNat hbits
      rw [BitVec.toNat_ofNat, Nat.mod_eq_of_lt (by omega)] at hnat
      exact absurd hnat (by rw [BitVec.neg_one_eq_allOnes, BitVec.toNat_allOnes]; omega)
    · left
      rw [unpackExponent_packComponents]
      decide

/-- Exponents and significands compare as equal only if they are. -/
theorem compareParts_eq_iff {e e' : Int} {m m' : Nat} :
    (compare e e').then (compare m m') = .eq ↔ e = e' ∧ m = m' := by
  rw [Ordering.then_eq_eq, Std.compare_eq_iff_eq, Std.compare_eq_iff_eq]

/-- Two numbers compare as equal if both are zeros, or if they are one. -/
theorem compare_eq_iff (u v : UnpackedFloat) :
    u.compare v = some .eq ↔
      (∃ s s', u = .zero s ∧ v = .zero s') ∨ (u = v ∧ u.isNaN = false) := by
  constructor
  · intro h
    cases u with
    | notANumber => cases h
    | infinity s =>
      cases v with
      | infinity s' =>
        cases s with
        | positive =>
          cases s' with
          | positive => exact .inr ⟨rfl, rfl⟩
          | negative => cases h
        | negative =>
          cases s' with
          | positive => cases h
          | negative => exact .inr ⟨rfl, rfl⟩
      | _ => cases s <;> cases h
    | zero s =>
      cases v with
      | zero s' => exact .inl ⟨s, s', rfl, rfl⟩
      | infinity s' => cases s' <;> cases h
      | finite s' m e hm => cases s' <;> cases h
      | notANumber => cases h
    | finite s m e hm =>
      cases v with
      | finite s' m' e' hm' =>
        cases s with
        | positive =>
          cases s' with
          | positive =>
            obtain ⟨rfl, rfl⟩ := compareParts_eq_iff.1 (Option.some.inj h)
            exact .inr ⟨rfl, rfl⟩
          | negative => cases h
        | negative =>
          cases s' with
          | positive => cases h
          | negative =>
            have hparts : ((compare e e').then (compare m m')).swap = .eq := Option.some.inj h
            obtain ⟨rfl, rfl⟩ := compareParts_eq_iff.1 (Ordering.swap_eq_eq.1 hparts)
            exact .inr ⟨rfl, rfl⟩
      | zero s' => cases s <;> cases h
      | infinity s' => cases s <;> cases s' <;> cases h
      | notANumber => cases s <;> cases h
  · rintro (⟨s, s', rfl, rfl⟩ | ⟨rfl, h⟩)
    · rfl
    · cases u with
      | notANumber => cases h
      | infinity s => cases s <;> rfl
      | zero s => rfl
      | finite s m e hm =>
        have hparts := (@compareParts_eq_iff e e m m).2 ⟨rfl, rfl⟩
        cases s with
        | positive => exact congrArg some hparts
        | negative => exact congrArg (some ∘ Ordering.swap) hparts

/-- Two doubles are equal if both are zeros, or if they are one double that is a number. -/
theorem beq_iff {x y : Float} :
    (x == y) = true ↔
      (∃ s s', x.toModel.unpack = .zero s ∧ y.toModel.unpack = .zero s') ∨
      (x.toModel.unpack = y.toModel.unpack ∧ x.toModel.unpack.isNaN = false) := by
  show (x.toModel.unpack.compare y.toModel.unpack == some .eq) = true ↔ _
  rw [beq_iff_eq]
  exact compare_eq_iff _ _

/-- Every double that is a number equals itself. -/
theorem beq_self {x : Float} (h : x.isNaN = false) : (x == x) = true :=
  beq_iff.2 (.inr ⟨rfl, h⟩)

/-- Doubles are equal from both sides. -/
theorem beq_symm {x y : Float} (h : (x == y) = true) : (y == x) = true := by
  rcases beq_iff.1 h with ⟨s, s', hx, hy⟩ | ⟨hxy, hx⟩
  · exact beq_iff.2 (Or.inl ⟨s', s, hy, hx⟩)
  · exact beq_iff.2 (Or.inr ⟨hxy.symm, hxy ▸ hx⟩)

/-- Doubles that are equal to a third one are equal. -/
theorem beq_trans {x y z : Float} (h : (x == y) = true) (h' : (y == z) = true) :
    (x == z) = true := by
  rcases beq_iff.1 h with ⟨s, s', hx, hy⟩ | ⟨hxy, hx⟩
  · rcases beq_iff.1 h' with ⟨t, t', _, hz⟩ | ⟨hyz, _⟩
    · exact beq_iff.2 (Or.inl ⟨s, t', hx, hz⟩)
    · exact beq_iff.2 (Or.inl ⟨s, s', hx, hyz ▸ hy⟩)
  · rcases beq_iff.1 h' with ⟨t, t', hy, hz⟩ | ⟨hyz, _⟩
    · exact beq_iff.2 (Or.inl ⟨t, t', hxy ▸ hy, hz⟩)
    · exact beq_iff.2 (Or.inr ⟨hxy.trans hyz, hx⟩)

/-- A finite double is a number. -/
theorem isNaN_of_isFinite {x : Float} (h : x.isFinite) : x.isNaN = false := by
  have hfinite : x.toModel.unpack.isFinite = true := h
  show x.toModel.unpack.isNaN = false
  cases hu : x.toModel.unpack with
  | notANumber =>
    rw [hu] at hfinite
    cases hfinite
  | infinity s => rfl
  | zero s => rfl
  | finite s m e hm => rfl

/-- Rounding makes a number of every number. -/
theorem isNaN_roundWithAccuracy (sign : Sign) (mantissa : Nat) (exponent : Int)
    (accuracy : Accuracy) :
    (roundWithAccuracy Format.binary64 sign mantissa exponent accuracy).isNaN = false := by
  exact of_branches (·.isNaN = false) (fun _ => rfl) (fun _ => rfl)

/-- A number times a finite number is a number. -/
theorem isNaN_mul {u v : UnpackedFloat} (h : u.isNaN = false) {s : Sign} {m : Nat} {e : Int}
    {hm : 0 < m} (hv : v = .finite s m e hm) :
    (UnpackedFloat.mul Format.binary64 u v).isNaN = false := by
  subst hv
  cases u with
  | notANumber => cases h
  | infinity s' => rfl
  | zero s' => rfl
  | finite s' m' e' hm' => exact isNaN_roundWithAccuracy _ _ _ _

/-- The double of an unsigned integer is a number. -/
theorem isNaN_ofUInt64 (n : UInt64) : n.toFloat.isNaN = false := by
  apply isNaN_pack
  show (UnpackedFloat.normalize Format.binary64 (n.toNat : Int) 0 .positive).isNaN = false
  unfold UnpackedFloat.normalize UnpackedFloat.round
  split
  · exact isNaN_roundWithAccuracy _ _ _ _
  · rfl
  · exact isNaN_roundWithAccuracy _ _ _ _

/-- A natural number without a power of ten is taken for a number. -/
theorem isNaN_ofScientific (n : Nat) :
    (UnpackedFloat.ofScientific Format.binary64 n 0).isNaN = false := by
  unfold UnpackedFloat.ofScientific
  refine of_branches (·.isNaN = false) (fun _ => rfl) fun _ => ?_
  refine iteInduction (motive := (UnpackedFloat.isNaN · = false)) (fun _ => rfl) fun _ => ?_
  refine iteInduction (motive := (UnpackedFloat.isNaN · = false)) (fun _ => rfl) fun _ => ?_
  refine iteInduction (motive := (UnpackedFloat.isNaN · = false)) (fun _ => isNaN_mul rfl rfl)
    fun hneg => ?_
  exact absurd (Int.le_refl 0) hneg

/-- The double of a natural number is a number. -/
theorem isNaN_ofNat (n : Nat) : (Float.ofNat n).isNaN = false := by
  show (Float.ofScientific n false 0).isNaN = false
  unfold Float.ofScientific
  split
  · apply isNaN_pack
    have hone : Float.exactlyRepresentablePowersOfTen[0].toModel.unpack =
        .finite .positive (2 ^ 52) (-52) (by decide) := by with_unfolding_all rfl
    exact isNaN_mul (isNaN_ofUInt64 n.toUInt64) hone
  · apply isNaN_pack
    exact isNaN_ofScientific n

/-- The double next to an integer is a number. -/
theorem isNaN_ofInt (i : Int) : (Float.ofInt i).isNaN = false := by
  cases i with
  | ofNat n => exact isNaN_ofNat n
  | negSucc n =>
    apply isNaN_pack
    have hnumber : (Float.ofNat (n + 1)).toModel.unpack.isNaN = false := isNaN_ofNat (n + 1)
    show (Float.ofNat (n + 1)).toModel.unpack.neg.isNaN = false
    cases hu : (Float.ofNat (n + 1)).toModel.unpack with
    | notANumber =>
      rw [hu] at hnumber
      cases hnumber
    | infinity s => rfl
    | zero s => rfl
    | finite s m e hm => rfl

end Chartboard.Double
