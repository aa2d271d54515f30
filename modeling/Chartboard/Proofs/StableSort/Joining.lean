import Chartboard.Proofs.StableSort.Merging

/-!
# Joining ranked runs

Where the elements are ranked, a list that is sorted by runs comes out arranged, wherever it is cut
and around whichever elements long runs are parted. Insertion finds the same arrangement, so nothing
depends on how long a list is.
-/

namespace Chartboard.StableSort

variable {α β : Type} [LinearOrder β] {less : α → α → Bool} {rank : α → β}

/-- A sort arranges every list whose elements are ranked. -/
def Arranges (less : α → α → Bool) (rank : α → β) (sort : List α → Option (List α)) : Prop :=
  ∀ {xs : List α}, RankedBy less rank xs →
    ∃ sorted, sort xs = some sorted ∧ IsArrangement rank xs sorted

/-! ## Stretches -/

/-- All steps of a stretch go in its direction. -/
theorem steps_isChain (less : α → α → Bool) (descending : Bool) (x : α) (ys : List α) :
    (x :: ys.take (steps less descending x ys)).IsChain fun a b => less b a = descending := by
  induction ys generalizing x with
  | nil => exact List.isChain_singleton x
  | cons y rest ih =>
    unfold steps
    split
    · next hstep => exact List.isChain_cons_cons.2 ⟨hstep, ih y⟩
    · exact List.isChain_singleton x

/-- The stretch at the head of a list goes in one direction. -/
theorem stretch_isChain (less : α → α → Bool) (xs : List α) :
    (xs.take (stretch less xs).1).IsChain fun a b => less b a = (stretch less xs).2 := by
  match xs with
  | [] => exact List.isChain_nil
  | [x] => exact List.isChain_singleton x
  | x :: y :: rest => exact steps_isChain less (less y x) x (y :: rest)

/-- A stretch that does not descend is arranged. -/
theorem ascending_arranges {xs : List α} (h : RankedBy less rank xs)
    (hchain : xs.IsChain fun a b => less b a = false) : IsArrangement rank xs xs := by
  have htrans : Trans (fun a b => rank a ≤ rank b) (fun a b => rank a ≤ rank b)
      (fun a b : α => rank a ≤ rank b) := ⟨le_trans⟩
  exact .of_ascending (List.isChain_iff_pairwise.1
    (hchain.imp_of_mem_imp fun a b ha hb => (h.less_eq_false_iff hb ha).1))

/-- A stretch that descends has no two elements of one rank, so it is arranged from its end on. -/
theorem descending_arranges {xs : List α} (h : RankedBy less rank xs)
    (hchain : xs.IsChain fun a b => less b a = true) : IsArrangement rank xs xs.reverse := by
  have htrans : Trans (fun a b => rank b < rank a) (fun a b => rank b < rank a)
      (fun a b : α => rank b < rank a) := ⟨fun hab hbc => hbc.trans hab⟩
  have hdescends : xs.Pairwise fun a b => rank b < rank a :=
    List.isChain_iff_pairwise.1 (hchain.imp_of_mem_imp fun a b ha hb => (h.less_iff_lt hb ha).1)
  refine ⟨List.pairwise_reverse.2 (hdescends.imp le_of_lt), fun k => ?_⟩
  rw [List.filter_reverse]
  have hfilter := hdescends.filter fun a => rank a = k
  match hxs : xs.filter fun a => rank a = k with
  | [] => rfl
  | [a] => rfl
  | a :: b :: rest =>
    rw [hxs] at hfilter
    have hmem : ∀ c ∈ a :: b :: rest, rank c = k := fun c hc => by
      rw [← hxs, List.mem_filter, decide_eq_true_eq] at hc
      exact hc.2
    have hlt := (List.pairwise_cons.1 hfilter).1 b List.mem_cons_self
    rw [hmem a (by simp), hmem b (by simp)] at hlt
    exact absurd hlt (lt_irrefl k)

/-! ## Runs -/

section Runs

variable {sort : List α → Option (List α)}

/-- A run is made of some elements: it is their arrangement, or it is yet to be sorted by a sort
that arranges. -/
def Run.Holds (less : α → α → Bool) (rank : α → β) (sort : List α → Option (List α)) (run : Run α)
    (xs : List α) : Prop :=
  if run.isSorted then IsArrangement rank xs run.elements
  else run.elements = xs ∧ Arranges less rank sort

/-- A run in order is the arrangement of its elements. -/
theorem Run.Holds.sortedBy {run : Run α} {xs : List α} (h : run.Holds less rank sort xs)
    (hranks : RankedBy less rank xs) :
    ∃ sorted, run.sortedBy sort = some sorted ∧ IsArrangement rank xs sorted := by
  unfold Run.Holds at h
  unfold Run.sortedBy
  split at h
  · next hsorted => exact ⟨run.elements, if_pos hsorted, h⟩
  · next hsorted =>
    obtain ⟨rfl, hsort⟩ := h
    rw [if_neg hsorted]
    exact hsort hranks

/-- Only a run without elements is made of none. -/
theorem Run.Holds.eq_nil {run : Run α} {xs : List α} (h : run.Holds less rank sort xs)
    (hnil : run.elements = []) : xs = [] := by
  unfold Run.Holds at h
  split at h
  · rw [hnil] at h
    exact List.eq_nil_iff_forall_not_mem.2 fun a ha => List.not_mem_nil (h.mem_iff.2 ha)
  · exact h.1.symm.trans hnil

/-- Two neighbouring runs are joined into one that is made of the elements of both. -/
theorem Run.Holds.join {left right : Run α} {xs ys : List α} (hleft : left.Holds less rank sort xs)
    (hright : right.Holds less rank sort ys) (h : RankedBy less rank (xs ++ ys)) :
    ∃ joined, left.join less sort right = some joined ∧
      joined.Holds less rank sort (xs ++ ys) := by
  unfold Run.join
  split
  · obtain ⟨first, hfirst, hxs⟩ :=
      hleft.sortedBy (h.mono fun a ha => List.mem_append_left ys ha)
    obtain ⟨second, hsecond, hys⟩ :=
      hright.sortedBy (h.mono fun a ha => List.mem_append_right xs ha)
    rw [hfirst, hsecond]
    exact ⟨_, rfl, hxs.of_both hys (merge_arranges (hxs.ranks hys h) hxs.ascending hys.ascending)⟩
  · next hsorted =>
    rw [Bool.or_eq_true, not_or] at hsorted
    unfold Run.Holds at hleft hright
    rw [if_neg hsorted.1] at hleft
    rw [if_neg hsorted.2] at hright
    obtain ⟨rfl, hsort⟩ := hleft
    obtain ⟨rfl, -⟩ := hright
    exact ⟨_, rfl, rfl, hsort⟩

/-- The first run of a list is made of the elements in front of the rest. -/
theorem cut_holds {atOnce : Bool} (hsort : atOnce = false → Arranges less rank sort) (least : Nat)
    {xs : List α} (h : RankedBy less rank xs) :
    ∃ run front rest, cut less atOnce least xs = some (run, rest) ∧ front ++ rest = xs ∧
      run.Holds less rank sort front := by
  have hfront : ∀ n, RankedBy less rank (xs.take n) := fun n =>
    h.mono fun a ha => List.mem_of_mem_take ha
  unfold cut
  simp only
  split
  · have hchain := stretch_isChain less xs
    refine ⟨_, xs.take (stretch less xs).1, _, rfl, List.take_append_drop _ xs, ?_⟩
    show IsArrangement rank _ (if _ then _ else _)
    split
    · next hdescending =>
      rw [hdescending] at hchain
      exact descending_arranges (hfront _) hchain
    · next hascending =>
      rw [Bool.not_eq_true] at hascending
      rw [hascending] at hchain
      exact ascending_arranges (hfront _) hchain
  · split
    · obtain ⟨elements, helements, harranged⟩ := sortShort_arranges (hfront shortLength)
      rw [helements]
      exact ⟨_, xs.take shortLength, _, rfl, List.take_append_drop _ xs, harranged⟩
    · next hatOnce =>
      exact ⟨_, xs.take least, _, rfl, List.take_append_drop _ xs, rfl,
        hsort (Bool.not_eq_true _ ▸ hatOnce)⟩

/-- A run and the pending runs in front of it, which are given from the last one on, are made of
some elements, one run behind the other. -/
def Covers (less : α → α → Bool) (rank : α → β) (sort : List α → Option (List α)) :
    Run α → List (Run α × Nat) → List α → Prop
  | run, [], xs => run.Holds less rank sort xs
  | run, (left, _) :: rest, xs =>
    ∃ ys zs, ys ++ zs = xs ∧ Covers less rank sort left rest ys ∧ run.Holds less rank sort zs

/-- Joining a run with pending ones has a result, and the runs are made of the same elements. -/
theorem collapse_covers (depth : Nat) {run : Run α} {pending : List (Run α × Nat)} {xs : List α}
    (hcovers : Covers less rank sort run pending xs) (h : RankedBy less rank xs) :
    ∃ run' pending', collapse less sort depth run pending = some (run', pending') ∧
      Covers less rank sort run' pending' xs := by
  fun_induction collapse less sort depth run pending generalizing xs with
  | case1 run left d below rest hdepth ih =>
    obtain ⟨_, zs, rfl, ⟨us, vs, rfl, hbelow, hleft⟩, hrun⟩ := hcovers
    rw [List.append_assoc] at h ⊢
    obtain ⟨joined, hjoined, hholds⟩ :=
      hleft.join hrun (h.mono fun a ha => List.mem_append_right us ha)
    rw [hjoined]
    exact ih joined ⟨us, vs ++ zs, rfl, hbelow, hholds⟩ h
  | case2 => exact ⟨_, _, rfl, hcovers⟩
  | case3 => exact ⟨_, _, rfl, hcovers⟩

/-- Joined at the top of the tree, the runs are one run of all elements. -/
theorem collapse_zero_holds {run : Run α} {pending : List (Run α × Nat)} {xs : List α}
    (hempty : StartsEmpty run pending) (hcovers : Covers less rank sort run pending xs)
    (h : RankedBy less rank xs) :
    ∃ joined, Prod.fst <$> collapse less sort 0 run pending = some joined ∧
      joined.Holds less rank sort xs := by
  obtain ⟨run', pending', hcollapse, hholds⟩ := collapse_covers 0 hcovers h
  have hempty' := collapse_startsEmpty hcollapse hempty
  have hlength := collapse_zero_length hcollapse
  rw [hcollapse]
  refine ⟨run', rfl, ?_⟩
  match pending' with
  | [] => exact hholds
  | [(first, _)] =>
    obtain ⟨ys, zs, rfl, hfirst, hrun⟩ := hholds
    have hys : ys = [] := hfirst.eq_nil hempty'
    rwa [hys, List.nil_append]
  | _ :: _ :: _ => simp at hlength

/-- The runs that are cut from the rest, joined with the pending runs, are one run of all
elements. -/
theorem joinRuns_holds {atOnce : Bool} (hsort : atOnce = false → Arranges less rank sort) {n : Nat}
    (hn : 0 < n) {fuel place : Nat} {run : Run α} {pending : List (Run α × Nat)} {xs ys : List α}
    (hfuel : ys.length ≤ fuel) (hempty : StartsEmpty run pending)
    (hcovers : Covers less rank sort run pending xs) (h : RankedBy less rank (xs ++ ys)) :
    ∃ joined, joinRuns less sort atOnce n fuel place run pending ys = some joined ∧
      joined.Holds less rank sort (xs ++ ys) := by
  have hxs : RankedBy less rank xs := h.mono fun a ha => List.mem_append_left ys ha
  induction fuel generalizing place run pending xs ys with
  | zero =>
    obtain rfl : ys = [] := List.eq_nil_of_length_eq_zero (by omega)
    rw [List.append_nil]
    exact collapse_zero_holds hempty hcovers hxs
  | succ fuel ih =>
    match ys with
    | [] =>
      rw [List.append_nil]
      exact collapse_zero_holds hempty hcovers hxs
    | y :: ys =>
      obtain ⟨next, front, rest, hcut, hsplit, hnext⟩ := cut_holds hsort (leastStretch n)
        (h.mono fun a ha => List.mem_append_right xs ha)
      have hshorter := (cut_perm (leastStretch_pos hn) (List.cons_ne_nil y ys) hcut).2
      rw [joinRuns, hcut]
      rw [← hsplit, ← List.append_assoc] at h ⊢
      simp only [Option.bind_eq_bind, Option.bind_some]
      obtain ⟨run', pending', hcollapse, hbefore⟩ := collapse_covers _ hcovers hxs
      rw [hcollapse]
      exact ih (by simp only [List.length_cons] at hshorter hfuel; omega)
        ((collapse_startsEmpty hcollapse hempty).next next _) ⟨xs, front, rfl, hbefore, hnext⟩ h
        (h.mono fun a ha => List.mem_append_left rest ha)

/-- A list as one run is made of all its elements. -/
theorem asRun_holds {atOnce : Bool} (hsort : atOnce = false → Arranges less rank sort)
    {xs : List α} (h : RankedBy less rank xs) :
    ∃ run, asRun less sort atOnce xs = some run ∧ run.Holds less rank sort xs := by
  have hnone : IsArrangement rank ([] : List α) [] := .of_ascending List.Pairwise.nil
  match xs with
  | [] => exact ⟨_, rfl, hnone⟩
  | x :: xs =>
    have hstart : StartsEmpty ({ elements := [], isSorted := true } : Run α) [] := rfl
    have hcovers : Covers less rank sort { elements := [], isSorted := true } [] [] := hnone
    exact joinRuns_holds hsort (Nat.succ_pos xs.length) (Nat.le_succ _) hstart hcovers h

end Runs

/-- A list is arranged by runs that are sorted as soon as they are cut. -/
theorem bySortedRuns_arranges : Arranges less rank (bySortedRuns less) := by
  intro xs h
  -- No run is left unsorted here, so the sort for such runs is never asked for.
  have hnever : true = false → Arranges less rank (some : List α → Option (List α)) := nofun
  obtain ⟨run, hrun, hholds⟩ := asRun_holds hnever h
  obtain ⟨sorted, hsorted, harranged⟩ := hholds.sortedBy h
  unfold bySortedRuns
  rw [hrun]
  have helements : run.elements = sorted := by
    unfold Run.sortedBy at hsorted
    split at hsorted <;> exact Option.some.inj hsorted
  exact ⟨run.elements, rfl, helements ▸ harranged⟩

/-! ## Long runs -/

/-- A list is parted by a test if the element at the place is told as the test has it. -/
theorem part_eq_filter (goesLeft : α → Bool) {place : Nat} {xs : List α} {pivot : α}
    (h : xs[place]? = some pivot) {placeGoesLeft : Bool} (htold : placeGoesLeft = goesLeft pivot) :
    part goesLeft place placeGoesLeft xs =
      (xs.filter goesLeft, xs.filter fun x => !goesLeft x) := by
  have htest : ∀ e ∈ xs.zipIdx,
      (if e.2 = place then placeGoesLeft else goesLeft e.1) = goesLeft e.1 := by
    intro e he
    split
    · next hplace =>
      have hget := List.mem_zipIdx_iff_getElem?.1 he
      rw [hplace, h] at hget
      rw [htold, Option.some.inj hget]
    · rfl
  have hparts : ∀ p : α → Bool, (xs.zipIdx.filter fun e => p e.1).map Prod.fst = xs.filter p := by
    intro p
    have hmap : (xs.zipIdx.map Prod.fst).filter p = _ := List.filter_map
    rw [List.zipIdx_map_fst] at hmap
    exact hmap.symm
  have hleft := List.filter_congr htest
  have hright := List.filter_congr fun e he => congrArg not (htest e he)
  unfold part
  rw [List.partition_eq_filter_filter]
  exact Prod.ext ((congrArg _ hleft).trans (hparts goesLeft))
    ((congrArg _ hright).trans (hparts fun x => !goesLeft x))

/-- Nothing comes before the element around which a list is parted if that is no more than the
ancestor, or if nothing goes to the left. -/
theorem pivot_le {ancestor : Option α} {xs : List α} {pivot : α}
    (h : RankedBy less rank (ancestor.toList ++ xs))
    (hancestor : ∀ a ∈ ancestor, ∀ x ∈ xs, rank a ≤ rank x) (hpivot : pivot ∈ xs)
    (hfirst : (ancestor.any (fun a => !less a pivot) ||
      (xs.filter fun x => less x pivot).isEmpty) = true) :
    ∀ x ∈ xs, rank pivot ≤ rank x := by
  have hmem : ∀ x ∈ xs, x ∈ ancestor.toList ++ xs := fun x hx => List.mem_append_right _ hx
  intro x hx
  rcases Bool.or_eq_true_iff.1 hfirst with hany | hnone
  · obtain ⟨a, rfl, hless⟩ := (Option.any_eq_true _ _).1 hany
    rw [Bool.not_eq_true', h.less_eq_false_iff (by simp) (hmem pivot hpivot)] at hless
    exact hless.trans (hancestor a rfl x hx)
  · rw [List.isEmpty_iff, List.filter_eq_nil_iff] at hnone
    have hless := Bool.eq_false_iff.2 (hnone x hx)
    rwa [h.less_eq_false_iff (hmem x hx) (hmem pivot hpivot)] at hless

/-- Where nothing comes before an element, the elements of its rank stay in front of the others. -/
theorem equals_arranges {xs above : List α} {pivot : α} (h : RankedBy less rank xs)
    (hpivot : pivot ∈ xs) (hleast : ∀ x ∈ xs, rank pivot ≤ rank x)
    (habove : IsArrangement rank (xs.filter fun x => !!less pivot x) above) :
    IsArrangement rank xs ((xs.filter fun x => !less pivot x) ++ above) := by
  have hequal : ∀ x ∈ xs.filter (!less pivot ·), rank x = rank pivot := by
    intro x hx
    rw [List.mem_filter, Bool.not_eq_true'] at hx
    exact le_antisymm ((h.less_eq_false_iff hpivot hx.1).1 hx.2) (hleast x hx.1)
  refine .of_parts (.of_ascending ?_) habove fun x hx y hy hpx hpy => ?_
  · exact List.pairwise_of_forall_mem_list fun a ha b hb =>
      le_of_eq ((hequal a ha).trans (hequal b hb).symm)
  · rw [Bool.not_eq_false', h.less_iff_lt hpivot hy] at hpy
    rwa [hequal x (List.mem_filter.2 ⟨hx, hpx⟩)]

/-- A list that is parted around its elements is arranged. -/
theorem byParts_arranges (limit : Nat) (ancestor : Option α) {xs : List α}
    (h : RankedBy less rank (ancestor.toList ++ xs))
    (hancestor : ∀ a ∈ ancestor, ∀ x ∈ xs, rank a ≤ rank x) :
    ∃ sorted, byParts less limit ancestor xs = some sorted ∧ IsArrangement rank xs sorted := by
  induction limit generalizing ancestor xs with
  | zero =>
    have hxs : RankedBy less rank xs := h.mono fun x hx => List.mem_append_right _ hx
    unfold byParts
    split
    · exact sortShort_arranges hxs
    · exact bySortedRuns_arranges hxs
  | succ limit ih =>
    have hxs : RankedBy less rank xs := h.mono fun x hx => List.mem_append_right _ hx
    unfold byParts
    simp only
    cases hplace : xs[pivotPlace (lessAt less xs.toArray) 0 xs.length]? with
    | none => exact sortShort_arranges hxs
    | some pivot =>
      have hpivot : pivot ∈ xs := List.mem_of_getElem? hplace
      have hself : less pivot pivot = false := (hxs.less_eq_false_iff hpivot hpivot).2 le_rfl
      have hlow := part_eq_filter (less · pivot) hplace hself.symm
      have hequal := part_eq_filter (!less pivot ·) hplace (congrArg not hself).symm
      rw [Bool.not_false] at hequal
      have hsub : ∀ (p : α → Bool), ∀ x ∈ xs.filter p, x ∈ xs := fun p x hx =>
        (List.mem_filter.1 hx).1
      simp only [hlow, hequal]
      split
      · exact sortShort_arranges hxs
      · split
        · next hfirst =>
          obtain ⟨above, habove, harranged⟩ := ih none (hxs.mono (hsub (!!less pivot ·))) nofun
          rw [habove]
          exact ⟨_, rfl,
            equals_arranges hxs hpivot (pivot_le h hancestor hpivot hfirst) harranged⟩
        · obtain ⟨below, hbelow, hleft⟩ := ih ancestor
            (h.mono fun x hx => (List.mem_append.1 hx).elim (List.mem_append_left xs)
              fun hx => List.mem_append_right _ (hsub (less · pivot) x hx))
            fun a ha x hx => hancestor a ha x (hsub _ x hx)
          have hhigh : ∀ a ∈ some pivot, ∀ x ∈ xs.filter (!less · pivot), rank a ≤ rank x := by
            intro a ha x hx
            obtain rfl := Option.mem_some.1 ha
            rw [List.mem_filter, Bool.not_eq_true'] at hx
            exact (hxs.less_eq_false_iff hx.1 hpivot).1 hx.2
          obtain ⟨above, habove, hright⟩ := ih (some pivot)
            (hxs.mono (List.forall_mem_cons.2 ⟨hpivot, hsub (!less · pivot)⟩)) hhigh
          rw [hbelow, habove]
          refine ⟨_, rfl, hleft.of_parts hright fun x hx y hy hpx hpy => ?_⟩
          exact ((hxs.less_iff_lt hx hpivot).1 hpx).trans_le
            ((hxs.less_eq_false_iff hy hpivot).1 hpy)

/-- An unsorted run is arranged by parting it. -/
theorem sortRun_arranges : Arranges less rank (sortRun less) := by
  intro xs h
  exact byParts_arranges _ none h nofun

/-! ## The whole sort -/

/-- A list is arranged by runs. -/
theorem byRuns_arranges : Arranges less rank (byRuns less) := by
  intro xs h
  unfold byRuns
  split
  · exact bySortedRuns_arranges h
  · have hlater : false = false → Arranges less rank (sortRun less) := fun _ => sortRun_arranges
    obtain ⟨run, hrun, hholds⟩ := asRun_holds hlater h
    rw [hrun]
    exact hholds.sortedBy h

/-- What an order ranks is sorted as by insertion, whatever the length of the list is. -/
theorem sort_eq_byInsertion {le : α → α → Prop} {xs : List α} (h : Ranks less le xs) :
    sort less xs = some (byInsertion less xs) := by
  obtain ⟨rank, hrank⟩ := h.exists_rank
  unfold sort
  split
  · rfl
  · obtain ⟨sorted, hsorted, harranged⟩ := byRuns_arranges hrank
    rw [hsorted, harranged.unique (byInsertion_arranges hrank)]

/-- Where no element is less than another one, the list stays as it is. -/
theorem sort_of_ties (less : α → α → Bool) (h : ∀ x y, less x y = false) (xs : List α) :
    sort less xs = some xs := by
  have hranks : Ranks less (fun _ _ => True) xs :=
    ⟨fun _ _ _ _ => .inl trivial, fun _ _ _ _ _ _ _ _ => trivial, fun x _ y _ => by simp [h x y]⟩
  have hkept := byInsertion_filter hranks (p := fun _ => true) fun _ _ _ _ _ _ => trivial
  rw [List.filter_true, List.filter_true] at hkept
  rw [sort_eq_byInsertion hranks, hkept]

end Chartboard.StableSort
