import Chartboard.Proofs.Decimal.Whole
import Chartboard.Proofs.Query.Grouping
import Mathlib.Algebra.Order.Group.Int
import Mathlib.Order.Monotone.Basic

/-!
# Accumulated integers

An accumulator keeps doubles. Of the integers it has taken it knows the doubles next to the least
and to the greatest one, and a sum that is rounded after each of them. What it gives back is exact
only where nothing was lost on the way.
-/

namespace Chartboard

open Json (Value)
open Double (IsInt)

/-! ## Rounded sums -/

/-- The sum of some integers as doubles make it: each integer is rounded, and so is the sum after
it. -/
def roundedSum (cells : List Int) : Int :=
  cells.foldl (fun sum c => nearest (sum + nearest c)) 0

variable {cells : List Int} {c m n : Int}

/-- One more integer is rounded and added, and the new sum is rounded again. -/
theorem roundedSum_concat (cells : List Int) (c : Int) :
    roundedSum (cells ++ [c]) = nearest (roundedSum cells + nearest c) := by
  unfold roundedSum
  rw [List.foldl_append]
  rfl

/-- An integer of 64 bits and a sign is rounded to one. -/
theorem natAbs_nearest_le (h : c.natAbs ≤ 2 ^ 64) : (nearest c).natAbs ≤ 2 ^ 64 := by
  calc (nearest c).natAbs = nearestNat c.natAbs := natAbs_nearest c
    _ ≤ nearestNat (2 ^ 64) := nearestNat_mono h
    _ = 2 ^ 64 := by decide +kernel

/-- At `2 ^ 119` the next double is too far away to be reached with an integer of 64 bits, so that
no sum of these comes further, however many they are. -/
theorem natAbs_roundedSum_le (h : ∀ c ∈ cells, c.natAbs ≤ 2 ^ 64) :
    (roundedSum cells).natAbs ≤ 2 ^ 119 := by
  induction cells using List.reverseRecOn with
  | nil => exact Nat.zero_le _
  | append_singleton cells c ih =>
    have hbefore := ih fun d hd => h d (List.mem_append_left [c] hd)
    have hcell := natAbs_nearest_le (h c (by simp))
    calc (roundedSum (cells ++ [c])).natAbs
        = (nearest (roundedSum cells + nearest c)).natAbs :=
          congrArg Int.natAbs (roundedSum_concat cells c)
      _ = nearestNat (roundedSum cells + nearest c).natAbs := natAbs_nearest _
      _ ≤ nearestNat (2 ^ 119 + 2 ^ 64) := nearestNat_mono (by omega)
      _ = 2 ^ 119 := by decide +kernel

/-- The size of a sum is at most the sum of the sizes. -/
theorem natAbs_sum_le (cells : List Int) : cells.sum.natAbs ≤ (cells.map Int.natAbs).sum := by
  induction cells with
  | nil => exact Nat.le_refl 0
  | cons c rest ih =>
    rw [List.sum_cons, List.map_cons, List.sum_cons]
    omega

/-- Nothing is rounded as long as the magnitudes come to no more than `2 ^ 53` together. -/
theorem roundedSum_eq_sum (h : (cells.map Int.natAbs).sum ≤ 2 ^ 53) :
    roundedSum cells = cells.sum := by
  induction cells using List.reverseRecOn with
  | nil => rfl
  | append_singleton cells c ih =>
    have htotal := natAbs_sum_le (cells ++ [c])
    rw [List.map_append, List.sum_append, List.map_singleton, List.sum_singleton] at h
    rw [List.map_append, List.sum_append, List.map_singleton, List.sum_singleton,
      List.sum_append, List.sum_singleton] at htotal
    have hcell : nearest c = c := nearest_of_natAbs_le (by omega)
    rw [roundedSum_concat, ih (by omega), hcell, List.sum_append, List.sum_singleton]
    exact nearest_of_natAbs_le (by omega)

/-! ## Least and greatest doubles -/

namespace Double

variable {x y : Float} {i j : Int}

/-- The lesser of two doubles that are integers is the lesser integer. -/
theorem IsInt.least (hx : IsInt x i) (hy : IsInt y j) : IsInt (Double.least x y) (min i j) := by
  unfold Double.least
  rw [hx.isNaN, if_neg Bool.false_ne_true]
  split
  · next hlt =>
    rw [min_eq_right (hy.le_of_lt hx hlt)]
    exact hy
  · next hnot =>
    rw [min_eq_left (hx.le_of_not_lt hy hnot)]
    exact hx

/-- The greater of two integral doubles holds the greater integer. -/
theorem IsInt.greatest (hx : IsInt x i) (hy : IsInt y j) :
    IsInt (Double.greatest x y) (max i j) := by
  unfold Double.greatest
  rw [hx.isNaN, if_neg Bool.false_ne_true]
  split
  · next hlt =>
    rw [max_eq_right (hx.le_of_lt hy hlt)]
    exact hy
  · next hnot =>
    rw [max_eq_left (hy.le_of_not_lt hx hnot)]
    exact hx

end Double

/-- The least of some integers and one more is the least so far or the new one. -/
theorem min?_concat (cells : List Int) (c : Int) :
    (cells ++ [c]).min? = some (cells.min?.elim c (min · c)) := by
  cases cells with
  | nil => rfl
  | cons first rest =>
    rw [List.cons_append, List.min?_cons', List.min?_cons', List.foldl_append]
    rfl

/-- The greatest of some integers and one more is the greatest so far or the new one. -/
theorem max?_concat (cells : List Int) (c : Int) :
    (cells ++ [c]).max? = some (cells.max?.elim c (max · c)) := by
  cases cells with
  | nil => rfl
  | cons first rest =>
    rw [List.cons_append, List.max?_cons', List.max?_cons', List.foldl_append]
    rfl

/-! ## Accumulators of integers -/

namespace Accumulator

variable {acc : Accumulator} {x : Float}

/-- The double that is kept is the one next to an extreme integer; none is kept where there is no
integer. -/
abbrev IsNear (kept : Option Float) (extreme : Option Int) : Prop :=
  Option.Rel (fun x m => IsInt x (nearest m)) kept extreme

/-- What an accumulator keeps of some integers. -/
structure Rounds (acc : Accumulator) (cells : List Int) : Prop where
  /-- All numbers have been integers. -/
  whole : acc.fractional = false
  /-- The sum is the rounded one. -/
  sum : IsInt acc.sum (roundedSum cells)
  /-- The least number is the double next to the least integer. -/
  least : IsNear acc.least cells.min?
  /-- The greatest number is the double next to the greatest integer. -/
  greatest : IsNear acc.greatest cells.max?

/-- An accumulator that has seen nothing keeps what there is of no integers. -/
theorem rounds_empty : Rounds {} [] where
  whole := rfl
  sum := Double.isInt_zero
  least := .none
  greatest := .none

/-- Rounding keeps the order of integers, so it does not matter that the extreme one is looked for
after it. -/
theorem isNear_extreme {pick : Float → Float → Float} {choose : Int → Int → Int}
    (hpick : ∀ {x y i j}, IsInt x i → IsInt y j → IsInt (pick x y) (choose i j))
    (hnearest : ∀ i j, nearest (choose i j) = choose (nearest i) (nearest j))
    {kept : Option Float} {extreme : Option Int} (h : IsNear kept extreme)
    (hx : IsInt x (nearest c)) :
    IsNear (some (kept.elim x (pick · x))) (some (extreme.elim c (choose · c))) := by
  cases h with
  | none => exact .some hx
  | @some y m hy =>
    refine .some ?_
    show IsInt (pick y x) (nearest (choose m c))
    rw [hnearest]
    exact hpick hy hx

/-- An integer is compared, as a double, with the least number so far. -/
theorem least_push (acc : Accumulator) (c : Int) : (acc.push (.int c)).least =
    some (acc.least.elim (Float.ofInt c) (Double.least · (Float.ofInt c))) := by
  obtain ⟨_, _, _, least, _, _⟩ := acc
  cases least <;> rfl

/-- An integer is compared, as a double, with the greatest number so far. -/
theorem greatest_push (acc : Accumulator) (c : Int) : (acc.push (.int c)).greatest =
    some (acc.greatest.elim (Float.ofInt c) (Double.greatest · (Float.ofInt c))) := by
  obtain ⟨_, _, _, _, greatest, _⟩ := acc
  cases greatest <;> rfl

/-- One more integer within 64 bits leaves the accumulator with the rounded sum and the rounded
extremes. -/
theorem Rounds.push (h : acc.Rounds cells) (hcells : ∀ c ∈ cells, c.natAbs ≤ 2 ^ 64)
    (hc : c.natAbs ≤ 2 ^ 64) : (acc.push (.int c)).Rounds (cells ++ [c]) := by
  have hvalue : IsInt (Float.ofInt c) (nearest c) := Double.isInt_ofInt (by omega)
  have hmono : Monotone nearest := fun _ _ => nearest_mono
  refine ⟨?_, ?_, ?_, ?_⟩
  · show (acc.fractional || false) = false
    rw [h.whole, Bool.or_false]
  · have hbefore := natAbs_roundedSum_le hcells
    have hcell := natAbs_nearest_le hc
    rw [roundedSum_concat]
    exact h.sum.add hvalue (by omega)
  · rw [least_push, min?_concat]
    exact isNear_extreme Double.IsInt.least (fun _ _ => hmono.map_min) h.least hvalue
  · rw [greatest_push, max?_concat]
    exact isNear_extreme Double.IsInt.greatest (fun _ _ => hmono.map_max) h.greatest hvalue

/-- Values that are integers where they are not null. -/
theorem rounds_ofValues {α : Type} {f : α → Option Int} {xs : List α}
    (h : ∀ c ∈ xs.filterMap f, c.natAbs ≤ 2 ^ 64) :
    (ofValues (xs.map fun x => (f x).elim .null .int)).Rounds (xs.filterMap f) := by
  induction xs using List.reverseRecOn with
  | nil => exact rounds_empty
  | append_singleton xs x ih =>
    rw [List.filterMap_append] at h ⊢
    have hbefore : ∀ c ∈ xs.filterMap f, c.natAbs ≤ 2 ^ 64 := fun c hc =>
      h c (List.mem_append_left _ hc)
    have hrounds := ih hbefore
    rw [List.map_append, List.map_singleton, Table.ofValues_concat]
    cases hx : f x with
    | none =>
      rw [List.filterMap_cons_none hx, List.filterMap_nil, List.append_nil]
      exact hrounds
    | some c =>
      rw [List.filterMap_cons_some hx, List.filterMap_nil] at h ⊢
      exact hrounds.push hbefore (h c (by simp))

/-! ## Fractions -/

/-- An accumulator knows whether some number was no integer. -/
theorem fractional_ofValues (values : List Value) :
    (ofValues values).fractional = values.any fun v => v.asNumber?.isSome && !v.isInteger := by
  induction values using List.reverseRecOn with
  | nil => rfl
  | append_singleton values v ih =>
    rw [Table.ofValues_concat, List.any_append, List.any_cons, List.any_nil, Bool.or_false, ← ih]
    unfold push
    split
    · next hnull =>
      cases v with
      | null => exact (Bool.or_false _).symm
      | bool b => cases hnull
      | number n => cases hnull
      | string s => cases hnull
      | array items => cases hnull
      | object members => cases hnull
    · split
      · next hnone =>
        rw [hnone]
        exact (Bool.or_false _).symm
      · next hsome =>
        rw [hsome]
        rfl

/-! ## Results -/

/-- What comes from a double is no integer of JSON. -/
theorem ofFloat_ne_int (x : Float) (m : Int) : Value.ofFloat x ≠ .int m := by
  unfold Value.ofFloat
  split
  · intro h
    cases h
  · intro h
    cases h

/-- The minimum is the least number that was kept, null if there was none. -/
theorem finish_min (acc : Accumulator) : acc.finish .min = acc.least.elim .null acc.scalar := by
  obtain ⟨_, _, _, least, _, _⟩ := acc
  cases least <;> rfl

/-- The maximum is the greatest number that was kept, null if there was none. -/
theorem finish_max (acc : Accumulator) : acc.finish .max = acc.greatest.elim .null acc.scalar := by
  obtain ⟨_, _, _, _, greatest, _⟩ := acc
  cases greatest <;> rfl

/-- If all numbers were integers, an integer is given back that has less than 64 digits. -/
theorem scalar_eq_int_iff (hwhole : acc.fractional = false) (hx : IsInt x n) :
    acc.scalar x = .int m ↔ n = m ∧ m.natAbs < 2 ^ 63 := by
  unfold scalar
  simp only [hx.toInt?, hwhole, Bool.not_false, Bool.true_and, decide_eq_true_eq]
  split
  · next hsize =>
    constructor
    · intro heq
      cases heq
      exact ⟨rfl, hsize⟩
    · rintro ⟨rfl, -⟩
      rfl
  · next hsize =>
    refine iff_of_false (ofFloat_ne_int x m) ?_
    rintro ⟨rfl, hlt⟩
    exact hsize hlt

/-- An extreme of integers comes out as an integer exactly where its double is that integer and fits
64 bits. -/
theorem scalar_extreme_eq_int_iff (hwhole : acc.fractional = false) {kept : Option Float}
    (h : IsNear kept (some n)) :
    kept.elim .null acc.scalar = .int m ↔ nearest n = m ∧ m.natAbs < 2 ^ 63 := by
  cases h with
  | some hx => exact scalar_eq_int_iff hwhole hx

/-- After a number that was no integer, only the count is one. -/
theorem finish_of_fractional (h : acc.fractional) {function : Aggregation}
    (hfunction : function ≠ .count) : acc.finish function ≠ .int m := by
  have hscalar : ∀ x, acc.scalar x ≠ .int m := by
    intro x
    unfold scalar
    split
    · rw [h]
      exact ofFloat_ne_int x m
    · exact ofFloat_ne_int x m
  have helim : ∀ kept : Option Float, kept.elim .null acc.scalar ≠ .int m := by
    intro kept
    cases kept with
    | none => exact fun heq => nomatch heq
    | some x => exact hscalar x
  cases function with
  | count => exact absurd rfl hfunction
  | sum => exact hscalar _
  | avg =>
    show (if acc.numeric = 0 then _ else _) ≠ _
    split
    · exact fun heq => nomatch heq
    · exact ofFloat_ne_int _ m
  | min =>
    rw [finish_min]
    exact helim acc.least
  | max =>
    rw [finish_max]
    exact helim acc.greatest

/-- The sum comes out as an integer exactly where the rounded sum is that integer and fits 64
bits. -/
theorem Rounds.sum_eq_int_iff (h : acc.Rounds cells) :
    acc.finish .sum = .int m ↔ roundedSum cells = m ∧ m.natAbs < 2 ^ 63 :=
  scalar_eq_int_iff h.whole h.sum

/-- The minimum comes out as an integer exactly where the double next to the least one is that
integer and fits 64 bits. -/
theorem Rounds.min_eq_int_iff (h : acc.Rounds cells) (hmin : cells.min? = some n) :
    acc.finish .min = .int m ↔ nearest n = m ∧ m.natAbs < 2 ^ 63 := by
  have hleast := h.least
  rw [hmin] at hleast
  rw [finish_min]
  exact scalar_extreme_eq_int_iff h.whole hleast

/-- The maximum comes out as an integer exactly where the double next to the greatest one is that
integer and fits 64 bits. -/
theorem Rounds.max_eq_int_iff (h : acc.Rounds cells) (hmax : cells.max? = some n) :
    acc.finish .max = .int m ↔ nearest n = m ∧ m.natAbs < 2 ^ 63 := by
  have hgreatest := h.greatest
  rw [hmax] at hgreatest
  rw [finish_max]
  exact scalar_extreme_eq_int_iff h.whole hgreatest

end Accumulator

end Chartboard
