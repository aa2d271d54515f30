import Chartboard.Proofs.Decimal.Finite
import Mathlib.Data.Prod.Lex

/-!
# The order of doubles

All doubles that are numbers stand in one order, in which the two zeros are tied. The comparison of
doubles is that of their places, which are made of the sign, the exponent and the significand.
-/

namespace Chartboard.Double

open Float.Model Float.Model.UnpackedFloat

/-- The place of a number among all others: its sign, with the infinities farthest out, and then the
exponent and the significand. Below zero both count backwards. -/
def place : UnpackedFloat → ℤ ×ₗ ℤ ×ₗ ℤ
  | .infinity .positive => toLex (2, toLex (0, 0))
  | .infinity .negative => toLex (-2, toLex (0, 0))
  | .finite .positive m e _ => toLex (1, toLex (e, (m : ℤ)))
  | .finite .negative m e _ => toLex (-1, toLex (-e, -(m : ℤ)))
  | .zero _ | .notANumber => toLex (0, toLex (0, 0))

/-- Of two magnitudes the exponents decide, and then the significands. -/
theorem compares_parts (e e' : ℤ) (m m' : ℕ) :
    ((compare e e').then (compare m m')).Compares (toLex (e, (m : ℤ))) (toLex (e', (m' : ℤ))) := by
  rcases lt_trichotomy e e' with he | rfl | he
  · rw [compare_lt_iff_lt.2 he]
    exact Prod.Lex.toLex_lt_toLex.2 (.inl he)
  · rw [compare_eq_iff_eq.2 rfl]
    rcases lt_trichotomy m m' with hm | rfl | hm
    · rw [compare_lt_iff_lt.2 hm]
      exact Prod.Lex.toLex_lt_toLex.2 (.inr ⟨rfl, Int.ofNat_lt.2 hm⟩)
    · rw [compare_eq_iff_eq.2 rfl]
      exact rfl
    · rw [compare_gt_iff_gt.2 hm]
      exact Prod.Lex.toLex_lt_toLex.2 (.inr ⟨rfl, Int.ofNat_lt.2 hm⟩)
  · rw [compare_gt_iff_gt.2 he]
    exact Prod.Lex.toLex_lt_toLex.2 (.inl he)

/-- Magnitudes count backwards below zero. -/
theorem compares_neg {o : Ordering} {e e' m m' : ℤ}
    (h : o.Compares (toLex (e, m)) (toLex (e', m'))) :
    o.swap.Compares (toLex (-e, -m)) (toLex (-e', -m')) := by
  cases o with
  | lt =>
    rcases Prod.Lex.toLex_lt_toLex.1 h with he | ⟨he, hm⟩
    · exact Prod.Lex.toLex_lt_toLex.2 (.inl (Int.neg_lt_neg he))
    · exact Prod.Lex.toLex_lt_toLex.2 (.inr ⟨congrArg Neg.neg he.symm, Int.neg_lt_neg hm⟩)
  | eq =>
    cases toLex.injective h
    exact rfl
  | gt =>
    rcases Prod.Lex.toLex_lt_toLex.1 h with he | ⟨he, hm⟩
    · exact Prod.Lex.toLex_lt_toLex.2 (.inl (Int.neg_lt_neg he))
    · exact Prod.Lex.toLex_lt_toLex.2 (.inr ⟨congrArg Neg.neg he.symm, Int.neg_lt_neg hm⟩)

/-- Numbers of one sign compare as what follows the sign. -/
theorem compares_sign {o : Ordering} {a b : ℤ ×ₗ ℤ} (s : ℤ) (h : o.Compares a b) :
    o.Compares (toLex (s, a)) (toLex (s, b)) := by
  cases o with
  | lt => exact Prod.Lex.toLex_lt_toLex.2 (.inr ⟨rfl, h⟩)
  | eq => exact congrArg (fun c => toLex (s, c)) h
  | gt => exact Prod.Lex.toLex_lt_toLex.2 (.inr ⟨rfl, h⟩)

/-- Two numbers compare as their places. -/
theorem compare_places {u v : UnpackedFloat} (hu : u.isNaN = false) (hv : v.isNaN = false) :
    ∃ o, u.compare v = some o ∧ o.Compares (place u) (place v) := by
  have hsigns : ∀ {s t : ℤ} (a b : ℤ ×ₗ ℤ), s < t → toLex (s, a) < toLex (t, b) :=
    fun _ _ h => Prod.Lex.toLex_lt_toLex.2 (.inl h)
  cases u with
  | notANumber => cases hu
  | infinity s =>
    cases v with
    | notANumber => cases hv
    | infinity t =>
      cases s <;> cases t
      · exact ⟨.eq, rfl, rfl⟩
      · exact ⟨.lt, rfl, hsigns _ _ (by decide)⟩
      · exact ⟨.gt, rfl, hsigns _ _ (by decide)⟩
      · exact ⟨.eq, rfl, rfl⟩
    | zero t => cases s <;> exact ⟨_, rfl, hsigns _ _ (by decide)⟩
    | finite t m e hm => cases s <;> cases t <;> exact ⟨_, rfl, hsigns _ _ (by decide)⟩
  | zero s =>
    cases v with
    | notANumber => cases hv
    | infinity t => cases t <;> exact ⟨_, rfl, hsigns _ _ (by decide)⟩
    | zero t => exact ⟨.eq, rfl, rfl⟩
    | finite t m e hm => cases t <;> exact ⟨_, rfl, hsigns _ _ (by decide)⟩
  | finite s m e hm =>
    cases v with
    | notANumber => cases hv
    | infinity t => cases s <;> cases t <;> exact ⟨_, rfl, hsigns _ _ (by decide)⟩
    | zero t => cases s <;> exact ⟨_, rfl, hsigns _ _ (by decide)⟩
    | finite t m' e' hm' =>
      cases s <;> cases t
      · exact ⟨_, rfl, compares_sign (-1) (compares_neg (compares_parts e e' m m'))⟩
      · exact ⟨.lt, rfl, hsigns _ _ (by decide)⟩
      · exact ⟨.gt, rfl, hsigns _ _ (by decide)⟩
      · exact ⟨_, rfl, compares_sign 1 (compares_parts e e' m m')⟩

variable {x y z : Float}

/-- A number is less than another one if its place is. -/
theorem lt_iff (hx : x.isNaN = false) (hy : y.isNaN = false) :
    x < y ↔ place x.toModel.unpack < place y.toModel.unpack := by
  obtain ⟨o, ho, hplaces⟩ := compare_places hx hy
  have hcompare : x < y ↔ x.toModel.unpack.compare y.toModel.unpack = some .lt := by
    change decide (x.toModel < y.toModel) = true ↔ _
    rw [decide_eq_true_iff]
    change (x.toModel.unpack.compare y.toModel.unpack == some .lt) = true ↔ _
    rw [beq_iff_eq]
  rw [hcompare, ho, Option.some.injEq]
  exact hplaces.eq_lt

/-- Only numbers compare. -/
theorem isNaN_of_compare {u v : UnpackedFloat} {o : Ordering} (h : u.compare v = some o) :
    u.isNaN = false ∧ v.isNaN = false := by
  cases u with
  | notANumber => cases v <;> cases h
  | _ =>
    refine ⟨rfl, ?_⟩
    cases v with
    | notANumber => cases h
    | _ => rfl

/-- What is not a number is neither less nor greater than anything. -/
theorem isNaN_of_lt (h : x < y) : x.isNaN = false ∧ y.isNaN = false := by
  have hcompare : (x.toModel.unpack.compare y.toModel.unpack == some .lt) = true :=
    of_decide_eq_true (show decide (x.toModel < y.toModel) = true from h)
  rw [beq_iff_eq] at hcompare
  exact isNaN_of_compare hcompare

/-- What is not a number is not at most anything, nor anything at most it. -/
theorem isNaN_of_le (h : x ≤ y) : x.isNaN = false ∧ y.isNaN = false := by
  have hcompare : (x.toModel.unpack.compare y.toModel.unpack).any (·.isLE) = true :=
    of_decide_eq_true (show decide (x.toModel ≤ y.toModel) = true from h)
  obtain ⟨o, ho, -⟩ := (Option.any_eq_true _ _).1 hcompare
  exact isNaN_of_compare ho

/-- Numbers are in the order of their places. -/
theorem le_iff (hx : x.isNaN = false) (hy : y.isNaN = false) :
    x ≤ y ↔ place x.toModel.unpack ≤ place y.toModel.unpack := by
  obtain ⟨o, ho, hplaces⟩ := compare_places hx hy
  have hcompare : x ≤ y ↔
      (x.toModel.unpack.compare y.toModel.unpack).any (·.isLE) = true := by
    change decide (x.toModel ≤ y.toModel) = true ↔ _
    rw [decide_eq_true_iff]
    exact Iff.rfl
  rw [hcompare, ho, Option.any_some, Ordering.isLE_iff_ne_gt]
  exact hplaces.ne_gt

/-- Of two numbers one is not greater than the other. -/
theorem total (hx : x.isNaN = false) (hy : y.isNaN = false) : x ≤ y ∨ y ≤ x := by
  rw [le_iff hx hy, le_iff hy hx]
  exact le_total _ _

/-- The order of numbers goes on from one to the next. -/
theorem trans (hx : x.isNaN = false) (hy : y.isNaN = false) (hz : z.isNaN = false)
    (hxy : x ≤ y) (hyz : y ≤ z) : x ≤ z := by
  rw [le_iff hx hy] at hxy
  rw [le_iff hy hz] at hyz
  rw [le_iff hx hz]
  exact hxy.trans hyz

/-- Being at most something passes on, whatever the doubles are. -/
theorem le_of_le_of_le (hxy : x ≤ y) (hyz : y ≤ z) : x ≤ z := by
  obtain ⟨hx, hy⟩ := isNaN_of_le hxy
  have hz : z.isNaN = false := (isNaN_of_le hyz).2
  exact trans hx hy hz hxy hyz

/-- Of two numbers at most one is less than the other. -/
theorem not_lt_of_lt (hx : x.isNaN = false) (hy : y.isNaN = false) (h : x < y) : ¬y < x := by
  rw [lt_iff hx hy] at h
  rw [lt_iff hy hx]
  exact h.asymm

/-- A number is less than another one exactly if that one is not at most as great. -/
theorem lt_iff_not_le (hx : x.isNaN = false) (hy : y.isNaN = false) : x < y ↔ ¬y ≤ x := by
  rw [lt_iff hx hy, le_iff hy hx]
  exact lt_iff_not_ge

end Chartboard.Double
