import Chartboard.Proofs.StableSort.Arrangement

/-!
# Merging what is ranked

Where the elements are ranked, two sorted lists are merged into the arrangement of both, from the
front, from the back, or from both ends at once: the ends are cuts, so they meet. A short list is
sorted in two halves and comes out arranged.
-/

namespace Chartboard.StableSort

open OrderDual (toDual)

variable {α β : Type} [LinearOrder β] {less : α → α → Bool} {rank : α → β}

/-! ## Insertion -/

/-- Ranked elements that are inserted behind sorted ones are arranged with them. -/
theorem insertAll_arranges {sorted xs : List α}
    (h : RankedBy less rank (sorted ++ xs))
    (hsorted : sorted.Pairwise fun a b => rank a ≤ rank b) :
    IsArrangement rank (sorted ++ xs) (insertAll less sorted xs) where
  ascending := insertAll_sorted h hsorted
  stable k := insertAll_filter h fun a _ b _ ha hb => by
    rw [decide_eq_true_eq] at ha hb
    exact le_of_eq (ha.trans hb.symm)

/-- An insertion sort arranges ranked elements. -/
theorem byInsertion_arranges {xs : List α} (h : RankedBy less rank xs) :
    IsArrangement rank xs (byInsertion less xs) :=
  insertAll_arranges h List.Pairwise.nil

/-! ## Merging -/

/-- The elements that are taken from the heads of two sorted lists are those in front of a cut, and
they are arranged. -/
theorem takeHeads_cut {second : α → α → Bool} {n : Nat} {xs ys : List α}
    (hsecond : ∀ x ∈ xs, ∀ y ∈ ys, second x y = true ↔ rank y < rank x)
    (hxs : xs.Pairwise fun a b => rank a ≤ rank b) (hys : ys.Pairwise fun a b => rank a ≤ rank b)
    (hn : n ≤ xs.length + ys.length) :
    ∃ j, (takeHeads second n xs ys).2 + j = n ∧ (takeHeads second n xs ys).2 ≤ xs.length ∧
      j ≤ ys.length ∧ IsCut rank xs ys (takeHeads second n xs ys).2 j ∧
      IsArrangement rank (xs.take (takeHeads second n xs ys).2 ++ ys.take j)
        (takeHeads second n xs ys).1 := by
  fun_induction takeHeads second n xs ys with
  | case1 xs ys =>
    exact ⟨0, rfl, Nat.zero_le _, Nat.zero_le _, .zero, .of_ascending List.Pairwise.nil⟩
  | case2 n => exact absurd hn (Nat.not_succ_le_zero n)
  | case3 n y ys taken count heq ih =>
    obtain ⟨hy, hrest⟩ := List.pairwise_cons.1 hys
    obtain ⟨j, hsum, hi, hj, -, harranged⟩ :=
      ih (fun _ ha => absurd ha List.not_mem_nil) hxs hrest (Nat.le_of_succ_le_succ hn)
    simp only [heq] at hsum hi harranged
    refine ⟨j + 1, by omega, hi, Nat.succ_le_succ hj, .nil_left, ?_⟩
    rw [List.take_nil, List.nil_append] at harranged ⊢
    exact harranged.cons fun b hb => hy b (List.mem_of_mem_take hb)
  | case4 n x xs taken count heq ih =>
    obtain ⟨hx, hrest⟩ := List.pairwise_cons.1 hxs
    obtain ⟨j, hsum, hi, hj, -, harranged⟩ :=
      ih (fun _ _ _ hb => absurd hb List.not_mem_nil) hrest hys (Nat.le_of_succ_le_succ hn)
    simp only [heq] at hsum hi harranged
    refine ⟨j, by omega, Nat.succ_le_succ hi, hj, .nil_right, ?_⟩
    rw [List.take_nil, List.append_nil] at harranged ⊢
    exact harranged.cons fun b hb => hx b (List.mem_of_mem_take hb)
  | case5 n x xs y ys hless taken count heq ih =>
    have hyx : rank y < rank x := (hsecond x List.mem_cons_self y List.mem_cons_self).1 hless
    have habove : ∀ a ∈ x :: xs, rank y < rank a := fun a ha =>
      hyx.trans_le (le_of_ascending hxs a ha)
    obtain ⟨hy, hrest⟩ := List.pairwise_cons.1 hys
    obtain ⟨j, hsum, hi, hj, hcut, harranged⟩ :=
      ih (fun a ha b hb => hsecond a ha b (List.mem_cons_of_mem y hb)) hxs hrest
        (by simp only [List.length_cons] at hn ⊢; omega)
    simp only [heq] at hsum hi hcut harranged
    refine ⟨j + 1, by omega, hi, Nat.succ_le_succ hj, ⟨hcut.first, ?_⟩, ?_⟩
    · rw [List.take_succ_cons]
      exact List.forall_mem_cons.2
        ⟨fun a ha => habove a (List.mem_of_mem_drop ha), hcut.second⟩
    · rw [List.take_succ_cons]
      exact harranged.pull (fun a ha => habove a (List.mem_of_mem_take ha))
        fun b hb => hy b (List.mem_of_mem_take hb)
  | case6 n x xs y ys hless taken count heq ih =>
    have hxy : rank x ≤ rank y := by
      rwa [hsecond x List.mem_cons_self y List.mem_cons_self, not_lt] at hless
    have habove : ∀ b ∈ y :: ys, rank x ≤ rank b := fun b hb =>
      hxy.trans (le_of_ascending hys b hb)
    obtain ⟨hx, hrest⟩ := List.pairwise_cons.1 hxs
    obtain ⟨j, hsum, hi, hj, hcut, harranged⟩ :=
      ih (fun a ha b hb => hsecond a (List.mem_cons_of_mem x ha) b hb) hrest hys
        (by simp only [List.length_cons] at hn ⊢; omega)
    simp only [heq] at hsum hi hcut harranged
    refine ⟨j, by omega, Nat.succ_le_succ hi, hj, ⟨?_, hcut.second⟩, ?_⟩
    · rw [List.take_succ_cons]
      exact List.forall_mem_cons.2
        ⟨fun b hb => habove b (List.mem_of_mem_drop hb), hcut.first⟩
    · rw [List.take_succ_cons]
      refine harranged.cons fun b hb => ?_
      rcases List.mem_append.1 hb with hb | hb
      · exact hx b (List.mem_of_mem_take hb)
      · exact habove b (List.mem_of_mem_take hb)

/-- One element or none is in order. -/
theorem ascending_of_length_le_one {xs : List α} (h : xs.length ≤ 1) :
    xs.Pairwise fun a b => rank a ≤ rank b := by
  match xs, h with
  | [], _ => exact List.Pairwise.nil
  | [x], _ => exact List.pairwise_singleton _ x

section Merge

variable {left right : List α}

/-- What is taken in front is in front of a cut. -/
theorem takeFirst_cut (h : RankedBy less rank (left ++ right))
    (hleft : left.Pairwise fun a b => rank a ≤ rank b)
    (hright : right.Pairwise fun a b => rank a ≤ rank b) {n : Nat}
    (hn : n ≤ left.length + right.length) :
    ∃ j, (takeFirst less n left right).2 + j = n ∧
      (takeFirst less n left right).2 ≤ left.length ∧ j ≤ right.length ∧
      IsCut rank left right (takeFirst less n left right).2 j ∧
      IsArrangement rank (left.take (takeFirst less n left right).2 ++ right.take j)
        (takeFirst less n left right).1 :=
  takeHeads_cut (fun _ hx _ hy => h.less_iff_lt (List.mem_append_right left hy)
    (List.mem_append_left right hx)) hleft hright hn

/-- What is taken behind is behind a cut: from the end on, everything is the other way round. -/
theorem takeLast_cut (h : RankedBy less rank (left ++ right))
    (hleft : left.Pairwise fun a b => rank a ≤ rank b)
    (hright : right.Pairwise fun a b => rank a ≤ rank b) {n : Nat}
    (hn : n ≤ left.length + right.length) :
    ∃ i, (takeLast less n left right).2 + i = n ∧
      (takeLast less n left right).2 ≤ right.length ∧ i ≤ left.length ∧
      IsCut rank left right (left.length - i) (right.length - (takeLast less n left right).2) ∧
      IsArrangement rank (left.drop (left.length - i) ++
          right.drop (right.length - (takeLast less n left right).2))
        (takeLast less n left right).1.reverse := by
  have hless : ∀ y ∈ right.reverse, ∀ x ∈ left.reverse,
      less y x = true ↔ (toDual ∘ rank) x < (toDual ∘ rank) y := fun y hy x hx =>
    h.less_iff_lt (List.mem_append_right left (List.mem_reverse.1 hy))
      (List.mem_append_left right (List.mem_reverse.1 hx))
  have hlength : n ≤ right.reverse.length + left.reverse.length := by
    rwa [List.length_reverse, List.length_reverse, Nat.add_comm]
  obtain ⟨i, hsum, hj, hi, hcut, harranged⟩ := takeHeads_cut hless
    (List.pairwise_reverse.2 hright) (List.pairwise_reverse.2 hleft) hlength
  rw [List.length_reverse] at hj hi
  have hback := harranged.reverse
  rw [List.reverse_append, List.take_reverse, List.take_reverse, List.reverse_reverse,
    List.reverse_reverse] at hback
  exact ⟨i, hsum, hj, hi, hcut.reverse, hback⟩

/-- Two sorted lists are merged into the arrangement of both. -/
theorem merge_arranges (h : RankedBy less rank (left ++ right))
    (hleft : left.Pairwise fun a b => rank a ≤ rank b)
    (hright : right.Pairwise fun a b => rank a ≤ rank b) :
    IsArrangement rank (left ++ right) (merge less left right) := by
  unfold merge
  simp only
  split
  · obtain ⟨j, hsum, hi, hj, -, harranged⟩ := takeFirst_cut h hleft hright le_rfl
    rwa [List.take_of_length_le (by omega), List.take_of_length_le (by omega)] at harranged
  · obtain ⟨i, hsum, hj, hi, -, harranged⟩ := takeLast_cut h hleft hright le_rfl
    have hnone : left.length - i = 0 := by omega
    have hnone' : right.length -
        (takeLast less (left.length + right.length) left right).2 = 0 := by omega
    rwa [hnone, hnone', List.drop_zero, List.drop_zero] at harranged

/-- Two sorted halves are merged from both ends into the arrangement of both: the ends meet. -/
theorem mergeHalves_arranges (h : RankedBy less rank (left ++ right))
    (hleft : left.Pairwise fun a b => rank a ≤ rank b)
    (hright : right.Pairwise fun a b => rank a ≤ rank b) (hle : left.length ≤ right.length)
    (hge : right.length ≤ left.length + 1) :
    ∃ merged, mergeHalves less left right = some merged ∧
      IsArrangement rank (left ++ right) merged := by
  have hhalf : left.length ≤ left.length + right.length := Nat.le_add_right _ _
  obtain ⟨j, hsum, hi, hj, hcut, hfirst⟩ := takeFirst_cut h hleft hright hhalf
  obtain ⟨i', hsum', hj', hi', hcut', hlast⟩ := takeLast_cut h hleft hright hhalf
  have htaken : left.length - (takeFirst less left.length left right).2 = j := by omega
  have hrest : left.length - i' = (takeLast less left.length left right).2 := by omega
  rw [hrest] at hcut' hlast
  obtain ⟨hmeet, hmeet'⟩ := hcut.nested hcut' (by omega) hi (by omega) hj (by omega)
  unfold mergeHalves
  simp only [htaken]
  rw [if_pos ⟨hmeet, by omega⟩]
  refine ⟨_, rfl, hcut'.glue hleft hright ?_ hlast⟩
  refine (hcut.take hmeet hmeet').glue hleft.take hright.take ?_ (.of_ascending ?_)
  · rwa [List.take_take, List.take_take, Nat.min_eq_left hmeet, Nat.min_eq_left hmeet']
  · refine ascending_of_length_le_one ?_
    simp only [List.length_append, List.length_drop, List.length_take]
    omega

end Merge

/-! ## Short lists -/

/-- Three comparisons are enough to merge two sorted pairs. -/
theorem mergePairs_eq_merge {a b c d : α}
    (h : RankedBy less rank [a, b, c, d]) (hab : rank a ≤ rank b)
    (hcd : rank c ≤ rank d) : mergePairs less a b c d = merge less [a, b] [c, d] := by
  have hba : less b a = false := (h.less_eq_false_iff (by simp) (by simp)).2 hab
  have hdc : less d c = false := (h.less_eq_false_iff (by simp) (by simp)).2 hcd
  have hmerge : merge less [a, b] [c, d] = (takeFirst less 4 [a, b] [c, d]).1 := rfl
  rw [hmerge]
  unfold mergePairs takeFirst
  cases hdb : less d b with
  | true =>
    have hcb : less c b = true := (h.less_iff_lt (by simp) (by simp)).2
      (hcd.trans_lt ((h.less_iff_lt (by simp) (by simp)).1 hdb))
    cases hca : less c a <;> cases hda : less d a <;> simp [takeHeads, *]
  | false =>
    have hda : less d a = false := (h.less_eq_false_iff (by simp) (by simp)).2
      (hab.trans ((h.less_eq_false_iff (by simp) (by simp)).1 hdb))
    cases hca : less c a <;> cases hcb : less c b <;> simp [takeHeads, *]

/-- One comparison arranges a pair. -/
theorem pair_arranges {x y : α} (h : RankedBy less rank [x, y]) :
    ∃ a b, (if less y x then (y, x) else (x, y)) = (a, b) ∧
      IsArrangement rank [x, y] [a, b] := by
  have hpair := byInsertion_arranges h
  have hinsert : byInsertion less [x, y] = if less y x then [y, x] else [x, y] := by
    show (insertBack less y [x]).reverse = _
    unfold insertBack
    split <;> rfl
  rw [hinsert] at hpair
  split at hpair
  · next hless => exact ⟨y, x, if_pos hless, hpair⟩
  · next hless => exact ⟨x, y, if_neg hless, hpair⟩

/-- Five comparisons arrange four elements. -/
theorem sortFour_arranges {w x y z : α}
    (h : RankedBy less rank [w, x, y, z]) :
    IsArrangement rank [w, x, y, z] (sortFour less w x y z) := by
  have hwx : RankedBy less rank [w, x] := h.mono (by simp)
  have hyz : RankedBy less rank [y, z] := h.mono (by simp)
  obtain ⟨a, b, hab, hfirst⟩ := pair_arranges hwx
  obtain ⟨c, d, hcd, hsecond⟩ := pair_arranges hyz
  have hranks := hfirst.ranks hsecond h
  have hle := le_of_ascending hfirst.ascending b (by simp)
  have hle' := le_of_ascending hsecond.ascending d (by simp)
  unfold sortFour
  rw [hab, hcd]
  show IsArrangement rank _ (mergePairs less a b c d)
  rw [mergePairs_eq_merge hranks hle hle']
  exact hfirst.of_both hsecond (merge_arranges hranks hfirst.ascending hsecond.ascending)

/-- A half of a short list is arranged. -/
theorem sortHalf_arranges (fourFirst : Bool) {xs : List α}
    (h : RankedBy less rank xs) :
    IsArrangement rank xs (sortHalf less fourFirst xs) := by
  unfold sortHalf
  split
  · next w x y z rest =>
    split
    · have hfirst : RankedBy less rank [w, x, y, z] := h.mono (by simp)
      have hfour := sortFour_arranges hfirst
      have hranks : RankedBy less rank (sortFour less w x y z ++ rest) := by
        refine h.mono fun a ha => ?_
        rwa [List.mem_append, hfour.mem_iff, ← List.mem_append] at ha
      exact hfour.of_front (insertAll_arranges hranks hfour.ascending)
    · exact byInsertion_arranges h
  · exact byInsertion_arranges h

/-- A short list is arranged. -/
theorem sortShort_arranges {xs : List α} (h : RankedBy less rank xs) :
    ∃ sorted, sortShort less xs = some sorted ∧ IsArrangement rank xs sorted := by
  have hhalves : xs.take (xs.length / 2) ++ xs.drop (xs.length / 2) = xs :=
    List.take_append_drop _ xs
  have hfront : RankedBy less rank (xs.take (xs.length / 2)) :=
    h.mono fun _ => List.mem_of_mem_take
  have hback : RankedBy less rank (xs.drop (xs.length / 2)) :=
    h.mono fun _ => List.mem_of_mem_drop
  have hleft := sortHalf_arranges (decide (8 ≤ xs.length)) hfront
  have hright := sortHalf_arranges (decide (8 ≤ xs.length)) hback
  have hlength := fun ys => (sortHalf_perm less (decide (8 ≤ xs.length)) ys).length_eq
  rw [← hhalves] at h
  obtain ⟨sorted, hsorted, hmerged⟩ := mergeHalves_arranges (hleft.ranks hright h)
    hleft.ascending hright.ascending
    (by rw [hlength, hlength, List.length_take, List.length_drop]; omega)
    (by rw [hlength, hlength, List.length_take, List.length_drop]; omega)
  refine ⟨sorted, hsorted, ?_⟩
  have hboth := hleft.of_both hright hmerged
  rwa [hhalves] at hboth

end Chartboard.StableSort
