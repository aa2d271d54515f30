import Chartboard.StableSort.Runs
import Mathlib.Data.List.Perm.Basic
import Mathlib.Tactic.SplitIfs

/-!
# Sorting keeps the elements

Whatever the order is, even one that does not rank the elements, a sorted list holds the same
elements as the given one, each as often. Every step of the sort is followed by itself: insertion,
the two ways to merge, the cutting of runs and the parting of long runs.
-/

namespace Chartboard.StableSort

variable {α : Type} (less : α → α → Bool)

/-! ## Insertion -/

/-- Inserting an element adds it and nothing else. -/
theorem insertBack_perm (x : α) (xs : List α) : (insertBack less x xs).Perm (x :: xs) := by
  induction xs with
  | nil => exact List.Perm.refl _
  | cons y rest ih =>
    unfold insertBack
    split
    · exact (ih.cons y).trans (List.Perm.swap x y rest)
    · exact List.Perm.refl _

/-- Inserting some elements adds them and nothing else. -/
theorem foldl_insertBack_perm (xs sorted : List α) :
    (xs.foldl (fun s x => insertBack less x s) sorted).Perm (xs ++ sorted) := by
  induction xs generalizing sorted with
  | nil => exact List.Perm.refl _
  | cons x rest ih =>
    have hrest := ih (insertBack less x sorted)
    have hx := (insertBack_perm less x sorted).append_left rest
    exact (hrest.trans hx).trans List.perm_middle

/-- Inserting elements behind sorted ones keeps both. -/
theorem insertAll_perm (sorted xs : List α) : (insertAll less sorted xs).Perm (sorted ++ xs) := by
  have hfold := foldl_insertBack_perm less xs sorted.reverse
  have hback := (List.reverse_perm sorted).append_left xs
  exact ((List.reverse_perm _).trans (hfold.trans hback)).trans List.perm_append_comm

/-- An insertion sort keeps all elements. -/
theorem byInsertion_perm (xs : List α) : (byInsertion less xs).Perm xs :=
  insertAll_perm less [] xs

/-! ## Merging -/

/-- What is taken from two lists are their first elements, as many as there are steps or
elements. -/
theorem takeHeads_perm (second : α → α → Bool) (n : Nat) (xs ys : List α) :
    ∃ j, (takeHeads second n xs ys).2 + j = min n (xs.length + ys.length) ∧
      (takeHeads second n xs ys).2 ≤ xs.length ∧ j ≤ ys.length ∧
      (takeHeads second n xs ys).1.Perm (xs.take (takeHeads second n xs ys).2 ++ ys.take j) := by
  fun_induction takeHeads second n xs ys with
  | case1 => exact ⟨0, by simp⟩
  | case2 => exact ⟨0, by simp⟩
  | case3 n y ys taken count heq ih =>
    obtain ⟨j, hsum, hx, hy, hperm⟩ := ih
    simp only [heq] at hsum hx hperm
    refine ⟨j + 1, ?_, hx, by simpa using hy, ?_⟩
    · simp only [List.length_cons, List.length_nil] at hsum ⊢
      omega
    · simp only [List.take_nil, List.nil_append, List.take_succ_cons] at hperm ⊢
      exact hperm.cons y
  | case4 n x xs taken count heq ih =>
    obtain ⟨j, hsum, hx, hy, hperm⟩ := ih
    simp only [heq] at hsum hx hperm
    refine ⟨j, ?_, by simpa using hx, hy, ?_⟩
    · simp only [List.length_cons, List.length_nil] at hsum ⊢
      omega
    · exact hperm.cons x
  | case5 n x xs y ys hsecond taken count heq ih =>
    obtain ⟨j, hsum, hx, hy, hperm⟩ := ih
    simp only [heq] at hsum hx hperm
    refine ⟨j + 1, ?_, hx, by simpa using hy, ?_⟩
    · simp only [List.length_cons] at hsum ⊢
      omega
    · rw [List.take_succ_cons]
      exact (hperm.cons y).trans List.perm_middle.symm
  | case6 n x xs y ys hsecond taken count heq ih =>
    obtain ⟨j, hsum, hx, hy, hperm⟩ := ih
    simp only [heq] at hsum hx hperm
    refine ⟨j, ?_, by simpa using hx, hy, ?_⟩
    · simp only [List.length_cons] at hsum ⊢
      omega
    · exact hperm.cons x

/-- As many steps as there are elements take all of them. -/
theorem takeHeads_all (second : α → α → Bool) (xs ys : List α) :
    (takeHeads second (xs.length + ys.length) xs ys).1.Perm (xs ++ ys) := by
  obtain ⟨j, hsum, hx, hy, hperm⟩ := takeHeads_perm second (xs.length + ys.length) xs ys
  rw [List.take_of_length_le (by omega), List.take_of_length_le (by omega)] at hperm
  exact hperm

/-- What is taken in front comes from the fronts of both runs. -/
theorem takeFirst_perm (n : Nat) (left right : List α) :
    ∃ j, (takeFirst less n left right).2 + j = min n (left.length + right.length) ∧
      (takeFirst less n left right).2 ≤ left.length ∧ j ≤ right.length ∧
      (takeFirst less n left right).1.Perm
        (left.take (takeFirst less n left right).2 ++ right.take j) :=
  takeHeads_perm _ n left right

/-- What is taken behind comes from the ends of both runs. -/
theorem takeLast_perm (n : Nat) (left right : List α) :
    ∃ i, (takeLast less n left right).2 + i = min n (left.length + right.length) ∧
      (takeLast less n left right).2 ≤ right.length ∧ i ≤ left.length ∧
      (takeLast less n left right).1.reverse.Perm
        (left.drop (left.length - i) ++
          right.drop (right.length - (takeLast less n left right).2)) := by
  obtain ⟨i, hsum, hr, hl, hperm⟩ := takeHeads_perm less n right.reverse left.reverse
  rw [List.length_reverse, List.length_reverse, Nat.add_comm right.length] at hsum
  rw [List.length_reverse] at hl hr
  rw [List.take_reverse, List.take_reverse] at hperm
  have hback :=
    (List.reverse_perm (right.drop (right.length - (takeLast less n left right).2))).append
      (List.reverse_perm (left.drop (left.length - i)))
  exact ⟨i, hsum, hr, hl,
    (List.reverse_perm _).trans (hperm.trans (hback.trans List.perm_append_comm))⟩

/-- Taking all there is in front keeps both runs. -/
theorem takeFirst_all (left right : List α) :
    (takeFirst less (left.length + right.length) left right).1.Perm (left ++ right) :=
  takeHeads_all _ left right

/-- Taking all there is behind keeps both runs. -/
theorem takeLast_all (left right : List α) :
    (takeLast less (left.length + right.length) left right).1.reverse.Perm (left ++ right) := by
  have hall := takeHeads_all less right.reverse left.reverse
  rw [List.length_reverse, List.length_reverse, Nat.add_comm] at hall
  have hback := (List.reverse_perm right).append (List.reverse_perm left)
  exact (List.reverse_perm _).trans (hall.trans (hback.trans List.perm_append_comm))

/-- Merging two runs keeps their elements. -/
theorem merge_perm (left right : List α) : (merge less left right).Perm (left ++ right) := by
  unfold merge
  split
  · exact takeFirst_all less left right
  · exact takeLast_all less left right

/-- A list cut at two places. -/
theorem take_append_middle_append_drop {i k : Nat} (h : i ≤ k) (xs : List α) :
    xs.take i ++ (xs.take k).drop i ++ xs.drop k = xs := by
  have hi : xs.take i = (xs.take k).take i := by rw [List.take_take, Nat.min_eq_left h]
  rw [hi, List.take_append_drop, List.take_append_drop]

/-- Two lists are what is taken from their two ends together with the middles in between. -/
theorem ends_and_middles_perm {left right first last : List α} {i m n k : Nat} (hi : i ≤ m)
    (hn : n ≤ k) (hfirst : first.Perm (left.take i ++ right.take n))
    (hlast : last.Perm (left.drop m ++ right.drop k)) :
    (first ++ ((left.take m).drop i ++ (right.take k).drop n) ++ last).Perm (left ++ right) := by
  have hleft := take_append_middle_append_drop hi left
  have hright := take_append_middle_append_drop hn right
  have hall := (hfirst.append_right ((left.take m).drop i ++ (right.take k).drop n)).append hlast
  refine hall.trans ?_
  conv_rhs => rw [← hleft, ← hright]
  classical
  rw [List.perm_iff_count]
  intro a
  simp only [List.count_append]
  omega

/-- Halves that are merged keep their elements. -/
theorem mergeHalves_perm {left right merged : List α}
    (h : mergeHalves less left right = some merged) : merged.Perm (left ++ right) := by
  obtain ⟨n, hn, hnl, hnr, hfirst⟩ := takeFirst_perm less left.length left right
  obtain ⟨i, hi, hir, hil, hlast⟩ := takeLast_perm less left.length left right
  unfold mergeHalves at h
  simp only [Option.ite_none_right_eq_some, Option.some.injEq] at h
  obtain ⟨hmeet, rfl⟩ := h
  have htaken : left.length - (takeFirst less left.length left right).2 = n := by omega
  have hrest : left.length - i = (takeLast less left.length left right).2 := by omega
  rw [htaken] at hmeet ⊢
  rw [hrest] at hlast
  exact ends_and_middles_perm (by omega) (by omega) hfirst hlast

/-! ## Short lists -/

/-- Four elements are only exchanged. -/
theorem sortFour_perm (w x y z : α) : (sortFour less w x y z).Perm [w, x, y, z] := by
  classical
  rw [List.perm_iff_count]
  intro a
  unfold sortFour mergePairs
  cases less x w <;> cases less z y <;> simp only [Bool.false_eq_true, if_true, if_false] <;>
    split_ifs <;> simp only [List.count_cons, List.count_nil] <;> omega

/-- A half of a short list keeps its elements. -/
theorem sortHalf_perm (fourFirst : Bool) (xs : List α) : (sortHalf less fourFirst xs).Perm xs := by
  unfold sortHalf
  split
  · split
    · rename_i w x y z rest _
      exact (insertAll_perm less _ rest).trans ((sortFour_perm less w x y z).append_right rest)
    · exact byInsertion_perm less _
  · exact byInsertion_perm less _

/-- A short list keeps its elements. -/
theorem sortShort_perm {xs sorted : List α} (h : sortShort less xs = some sorted) :
    sorted.Perm xs := by
  have hleft := sortHalf_perm less (decide (8 ≤ xs.length)) (xs.take (xs.length / 2))
  have hright := sortHalf_perm less (decide (8 ≤ xs.length)) (xs.drop (xs.length / 2))
  have hboth := hleft.append hright
  rw [List.take_append_drop] at hboth
  exact (mergeHalves_perm less h).trans hboth

/-! ## Runs -/

/-- What a sort makes of a list, if it makes anything of it, holds the same elements. -/
def Keeps (sort : List α → Option (List α)) : Prop :=
  ∀ {xs sorted : List α}, sort xs = some sorted → sorted.Perm xs

section Runs

variable {less} {sort : List α → Option (List α)}

/-- A run in order has the elements of the run. -/
theorem Run.sortedBy_perm (hsort : Keeps sort) {run : Run α} {sorted : List α}
    (h : run.sortedBy sort = some sorted) : sorted.Perm run.elements := by
  unfold Run.sortedBy at h
  split at h
  · cases h
    exact List.Perm.refl _
  · exact hsort h

/-- Two runs that are joined keep their elements. -/
theorem Run.join_perm (hsort : Keeps sort) {left right joined : Run α}
    (h : left.join less sort right = some joined) :
    joined.elements.Perm (left.elements ++ right.elements) := by
  unfold Run.join at h
  split at h
  · obtain ⟨first, hfirst, h⟩ := Option.bind_eq_some_iff.1 h
    obtain ⟨second, hsecond, h⟩ := Option.bind_eq_some_iff.1 h
    cases h
    have hboth := (Run.sortedBy_perm hsort hfirst).append (Run.sortedBy_perm hsort hsecond)
    exact (merge_perm less _ _).trans hboth
  · cases h
    exact List.Perm.refl _

/-- The root of a positive number is chosen to be positive. -/
theorem nearRoot_pos {n : Nat} (h : 0 < n) : 0 < nearRoot n := by
  unfold nearRoot
  simp only [Nat.shiftLeft_eq, Nat.shiftRight_eq_div_pow, Nat.one_mul]
  by_cases hzero : (1 + n.log2) / 2 = 0
  · rw [hzero]
    omega
  · have hpow : 2 ^ 1 ≤ 2 ^ ((1 + n.log2) / 2) := Nat.pow_le_pow_right (by omega) (by omega)
    have hshift := Nat.zero_le (n / 2 ^ ((1 + n.log2) / 2))
    omega

/-- A run that is kept is not empty. -/
theorem leastStretch_pos {n : Nat} (h : 0 < n) : 0 < leastStretch n := by
  unfold leastStretch
  split
  · omega
  · exact nearRoot_pos h

/-- The first run and the rest are the list, and the run is not empty. -/
theorem cut_perm {atOnce : Bool} {least : Nat} (hleast : 0 < least) {xs rest : List α}
    (hxs : xs ≠ []) {run : Run α} (h : cut less atOnce least xs = some (run, rest)) :
    (run.elements ++ rest).Perm xs ∧ rest.length < xs.length := by
  have hpos := List.length_pos_iff.2 hxs
  unfold cut at h
  simp only at h
  split_ifs at h with hstretch hdescending hatOnce
  · cases h
    have hback := (List.reverse_perm (xs.take (stretch less xs).1)).append_right
      (xs.drop (stretch less xs).1)
    rw [List.take_append_drop] at hback
    exact ⟨hback, by rw [List.length_drop]; omega⟩
  · cases h
    exact ⟨by rw [List.take_append_drop], by rw [List.length_drop]; omega⟩
  · obtain ⟨elements, helements, h⟩ := Option.bind_eq_some_iff.1 h
    cases h
    have hshort := (sortShort_perm less helements).append_right (xs.drop shortLength)
    rw [List.take_append_drop] at hshort
    have hsome : 0 < shortLength := by decide
    exact ⟨hshort, by rw [List.length_drop]; omega⟩
  · cases h
    exact ⟨by rw [List.take_append_drop], by rw [List.length_drop]; omega⟩

/-- The elements of pending runs, which are given from the last one on. -/
def pendingElements : List (Run α × Nat) → List α
  | [] => []
  | (run, _) :: rest => pendingElements rest ++ run.elements

/-- The first of all pending runs is without elements, or nothing is pending behind a run without
elements. -/
def StartsEmpty (run : Run α) (pending : List (Run α × Nat)) : Prop :=
  match pending.getLast? with
  | none => run.elements = []
  | some first => first.1.elements = []

/-- Joining a run with pending ones keeps all elements. -/
theorem collapse_perm (hsort : Keeps sort) {depth : Nat} {run run' : Run α}
    {pending pending' : List (Run α × Nat)}
    (h : collapse less sort depth run pending = some (run', pending')) :
    (pendingElements pending' ++ run'.elements).Perm
      (pendingElements pending ++ run.elements) := by
  fun_induction collapse less sort depth run pending with
  | case1 run left d below rest hdepth ih =>
    obtain ⟨joined, hjoined, h⟩ := Option.bind_eq_some_iff.1 h
    refine (ih joined h).trans ?_
    rw [pendingElements.eq_def ((left, d) :: below :: rest)]
    simp only [List.append_assoc]
    exact (Run.join_perm hsort hjoined).append_left _
  | case2 =>
    cases h
    exact List.Perm.refl _
  | case3 =>
    cases h
    exact List.Perm.refl _

/-- Joining a run with pending ones leaves the first of the pending runs where it is. -/
theorem collapse_startsEmpty {depth : Nat} {run run' : Run α}
    {pending pending' : List (Run α × Nat)}
    (h : collapse less sort depth run pending = some (run', pending'))
    (hempty : StartsEmpty run pending) : StartsEmpty run' pending' := by
  fun_induction collapse less sort depth run pending with
  | case1 run left d below rest hdepth ih =>
    obtain ⟨joined, -, h⟩ := Option.bind_eq_some_iff.1 h
    refine ih joined h ?_
    unfold StartsEmpty at hempty ⊢
    rwa [List.getLast?_cons_cons] at hempty
  | case2 =>
    cases h
    exact hempty
  | case3 =>
    cases h
    exact hempty

/-- A run that is put behind the others leaves the first one where it is. -/
theorem StartsEmpty.next {run : Run α} {pending : List (Run α × Nat)}
    (h : StartsEmpty run pending) (next : Run α) (depth : Nat) :
    StartsEmpty next ((run, depth) :: pending) := by
  unfold StartsEmpty at h ⊢
  rw [List.getLast?_cons]
  cases hlast : pending.getLast? with
  | none => simpa [hlast] using h
  | some first => simpa [hlast] using h

/-- At the top of the tree all runs but the first one are joined. -/
theorem collapse_zero_length {run run' : Run α} {pending pending' : List (Run α × Nat)}
    (h : collapse less sort 0 run pending = some (run', pending')) : pending'.length ≤ 1 := by
  generalize hdepth : 0 = depth at h
  fun_induction collapse less sort depth run pending with
  | case1 run left d below rest _ ih =>
    obtain ⟨joined, -, h⟩ := Option.bind_eq_some_iff.1 h
    exact ih joined h
  | case2 run left d below rest hd => omega
  | case3 run pending hshort =>
    have hsame : pending = pending' := by
      cases h
      rfl
    rw [← hsame]
    match pending, hshort with
    | [], _ => simp
    | [_], _ => simp
    | (left, d) :: below :: rest, hshort => exact absurd rfl (hshort left d below rest)

/-- Joined at the top of the tree, pending runs are all elements. -/
theorem collapse_zero_perm (hsort : Keeps sort) {run joined : Run α}
    {pending : List (Run α × Nat)} (hempty : StartsEmpty run pending)
    (h : Prod.fst <$> collapse less sort 0 run pending = some joined) :
    joined.elements.Perm (pendingElements pending ++ run.elements) := by
  obtain ⟨⟨run', pending'⟩, hcollapse, rfl⟩ := Option.map_eq_some_iff.1 h
  have hperm := collapse_perm hsort hcollapse
  have hlength := collapse_zero_length hcollapse
  have hempty' := collapse_startsEmpty hcollapse hempty
  match pending' with
  | [] => exact hperm
  | [(first, d)] =>
    have hfirst : first.elements = [] := hempty'
    simpa [pendingElements, hfirst] using hperm
  | _ :: _ :: _ => simp at hlength

/-- The runs of the rest, joined with the pending runs. -/
theorem joinRuns_perm (hsort : Keeps sort) {atOnce : Bool} {n : Nat} (hn : 0 < n)
    {fuel place : Nat} {run joined : Run α} {pending : List (Run α × Nat)} {xs : List α}
    (hfuel : xs.length ≤ fuel) (hempty : StartsEmpty run pending)
    (h : joinRuns less sort atOnce n fuel place run pending xs = some joined) :
    joined.elements.Perm (pendingElements pending ++ run.elements ++ xs) := by
  induction fuel generalizing place run pending xs with
  | zero =>
    have hxs : xs = [] := List.eq_nil_of_length_eq_zero (by omega)
    subst hxs
    rw [List.append_nil]
    exact collapse_zero_perm hsort hempty h
  | succ fuel ih =>
    match xs with
    | [] =>
      rw [List.append_nil]
      exact collapse_zero_perm hsort hempty h
    | x :: xs =>
      rw [joinRuns] at h
      obtain ⟨⟨next, rest⟩, hcut, h⟩ := Option.bind_eq_some_iff.1 h
      obtain ⟨⟨run', pending'⟩, hcollapse, h⟩ := Option.bind_eq_some_iff.1 h
      obtain ⟨hparts, hshorter⟩ :=
        cut_perm (leastStretch_pos hn) (List.cons_ne_nil x xs) hcut
      have hrest := ih (by simp only [List.length_cons] at hshorter hfuel; omega)
        ((collapse_startsEmpty hcollapse hempty).next next _) h
      refine hrest.trans ?_
      rw [pendingElements, List.append_assoc]
      exact (collapse_perm hsort hcollapse).append hparts

/-- A list as one run keeps its elements. -/
theorem asRun_perm (hsort : Keeps sort) {atOnce : Bool} {xs : List α} {run : Run α}
    (h : asRun less sort atOnce xs = some run) : run.elements.Perm xs := by
  unfold asRun at h
  match xs with
  | [] =>
    cases h
    exact List.Perm.refl _
  | x :: xs =>
    have hstart : StartsEmpty ({ elements := [], isSorted := true } : Run α) [] := rfl
    exact joinRuns_perm hsort (by simp) (by simp) hstart h

end Runs

/-- Runs that are sorted as soon as they are cut keep the elements. -/
theorem keeps_bySortedRuns : Keeps (bySortedRuns less) := by
  intro xs sorted h
  obtain ⟨run, hrun, rfl⟩ := Option.map_eq_some_iff.1 h
  have hsome : Keeps (some : List α → Option (List α)) := by
    intro ys zs hzs
    cases hzs
    exact List.Perm.refl _
  exact asRun_perm hsome hrun

/-! ## Long runs -/

/-- The two parts of a list are its elements. -/
theorem part_perm (goesLeft : α → Bool) (place : Nat) (placeGoesLeft : Bool) (xs : List α) :
    ((part goesLeft place placeGoesLeft xs).1 ++ (part goesLeft place placeGoesLeft xs).2).Perm
      xs := by
  unfold part
  simp only [List.partition_eq_filter_filter]
  rw [← List.map_append]
  have hparts := (List.filter_append_perm
    (fun (e : α × Nat) => if e.2 = place then placeGoesLeft else goesLeft e.1) xs.zipIdx).map
    Prod.fst
  rw [List.zipIdx_map_fst] at hparts
  exact hparts

/-- Parting a list again and again keeps the elements. -/
theorem keeps_byParts (limit : Nat) (ancestor : Option α) :
    Keeps (byParts less limit ancestor) := by
  intro xs sorted h
  induction limit generalizing ancestor xs sorted with
  | zero =>
    unfold byParts at h
    split at h
    · exact sortShort_perm less h
    · exact keeps_bySortedRuns less h
  | succ limit ih =>
    unfold byParts at h
    simp only at h
    split at h
    · exact sortShort_perm less h
    · rename_i pivot _
      split_ifs at h
      · exact sortShort_perm less h
      · obtain ⟨above, habove, rfl⟩ := Option.map_eq_some_iff.1 h
        exact ((ih none habove).append_left _).trans (part_perm _ _ _ xs)
      · obtain ⟨below, hbelow, h⟩ := Option.bind_eq_some_iff.1 h
        obtain ⟨above, habove, h⟩ := Option.bind_eq_some_iff.1 h
        cases h
        exact ((ih ancestor hbelow).append (ih (some pivot) habove)).trans (part_perm _ _ _ xs)

/-- Sorting by runs keeps the elements. -/
theorem keeps_byRuns : Keeps (byRuns less) := by
  intro xs sorted h
  have hrun : Keeps (sortRun less) := keeps_byParts less _ none
  unfold byRuns at h
  split at h
  · exact keeps_bySortedRuns less h
  · obtain ⟨run, hjoined, h⟩ := Option.bind_eq_some_iff.1 h
    exact (Run.sortedBy_perm hrun h).trans (asRun_perm hrun hjoined)

/-- A sorted list holds the same elements, each as often. -/
theorem sort_perm {xs sorted : List α} (h : sort less xs = some sorted) : sorted.Perm xs := by
  unfold sort at h
  split at h
  · cases h
    exact byInsertion_perm less xs
  · exact keeps_byRuns less h

end Chartboard.StableSort
