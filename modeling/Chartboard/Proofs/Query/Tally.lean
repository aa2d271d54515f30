import Chartboard.Query.Execute
import Mathlib.Algebra.Ring.Nat

/-!
# Tallied values

Numbers are counted in their bins one after the other. The bin of a number is one of the bins
whatever the number and the edges are, so each number raises one of the counts by one: in the end a
count is how many numbers belong to the bin, and together the counts are as many as the numbers.
-/

namespace Chartboard.Binning

variable (b : Binning)

/-- A number is put into one of the bins, also where its distance from the first edge in widths is
too large, negative or no number. -/
theorem index_lt {b : Binning} (h : 0 < b.count) (value : Float) : b.index value < b.count := by
  unfold index
  omega

/-! ## One number -/

/-- Tallying a value keeps the number of bins. -/
theorem length_tally (counts : List Nat) (value : Float) :
    (b.tally counts value).length = counts.length :=
  List.length_modify _ _ _

/-- Tallying a value raises the count of its own bin and no other. -/
theorem getElem?_tally (counts : List Nat) (value : Float) (i : Nat) :
    (b.tally counts value)[i]? =
      counts[i]?.map fun n => n + if b.index value = i then 1 else 0 := by
  unfold tally
  rw [List.getElem?_modify]
  refine Option.map_congr fun n _ => ?_
  split
  · rfl
  · rfl

/-- A number of a bin that is there adds one to the sum of the counts. -/
theorem sum_tally {counts : List Nat} {value : Float} (h : b.index value < counts.length) :
    (b.tally counts value).sum = counts.sum + 1 := by
  have hcounts := congrArg List.sum (List.modify_id (b.index value) counts)
  unfold tally
  rw [List.modify_eq_take_cons_drop h, List.sum_append, List.sum_cons] at hcounts ⊢
  simp only [id] at hcounts
  omega

/-! ## All numbers -/

/-- Tallying some values keeps the number of bins. -/
theorem length_foldl_tally (values : List Float) (counts : List Nat) :
    (values.foldl b.tally counts).length = counts.length := by
  induction values generalizing counts with
  | nil => rfl
  | cons value rest ih => rw [List.foldl_cons, ih, length_tally]

/-- A count grows by how many of the numbers belong to its bin. -/
theorem getElem?_foldl_tally (values : List Float) (counts : List Nat) (i : Nat) :
    (values.foldl b.tally counts)[i]? =
      counts[i]?.map fun n => n + values.countP fun value => b.index value = i := by
  induction values generalizing counts with
  | nil => simp
  | cons value rest ih =>
    rw [List.foldl_cons, ih, getElem?_tally, Option.map_map]
    refine Option.map_congr fun n _ => ?_
    simp only [Function.comp_apply, List.countP_cons, decide_eq_true_eq]
    omega

/-- If there is a count for every bin, the sum of the counts grows by one with each number. -/
theorem sum_foldl_tally (h : 0 < b.count) (values : List Float) {counts : List Nat}
    (hcounts : counts.length = b.count) :
    (values.foldl b.tally counts).sum = counts.sum + values.length := by
  induction values generalizing counts with
  | nil => rfl
  | cons value rest ih =>
    have hinside : b.index value < counts.length := hcounts ▸ index_lt h value
    rw [List.foldl_cons, ih ((b.length_tally counts value).trans hcounts), b.sum_tally hinside,
      List.length_cons]
    omega

/-! ## Frequencies -/

/-- There is one count for each bin. -/
theorem length_frequencies (values : List Float) : (b.frequencies values).length = b.count := by
  unfold frequencies
  rw [length_foldl_tally, List.length_replicate]

/-- When a number comes, its bin is among those that the numbers before it have been counted in. -/
theorem index_lt_length_frequencies {b : Binning} (h : 0 < b.count) (before : List Float)
    (value : Float) : b.index value < (b.frequencies before).length := by
  rw [length_frequencies]
  exact index_lt h value

/-- The frequency of a bin is how many of the numbers belong to it. -/
theorem getElem?_frequencies (values : List Float) {i : Nat} (hi : i < b.count) :
    (b.frequencies values)[i]? = some (values.countP fun value => b.index value = i) := by
  unfold frequencies
  rw [getElem?_foldl_tally, List.getElem?_replicate, if_pos hi, Option.map_some, Nat.zero_add]

/-- Together the frequencies are as many as the numbers. -/
theorem sum_frequencies (h : 0 < b.count) (values : List Float) :
    (b.frequencies values).sum = values.length := by
  unfold frequencies
  rw [b.sum_foldl_tally h values List.length_replicate, List.sum_replicate_nat, Nat.mul_zero,
    Nat.zero_add]

end Chartboard.Binning
