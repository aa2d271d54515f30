import Chartboard.Proofs.StableSort.Stability
import Mathlib.Order.Lattice

/-!
# Stable arrangements

An order that ranks some elements gives each of them a rank. A list is arranged if the ranks ascend
and elements of one rank keep their order, and there is only one arrangement of a list. Two sorted
lists can be cut so that everything in front of the cut comes before everything behind it. A merge
stops at such a cut after any number of steps, from either end, and so the two ends of a merge meet.
-/

namespace Chartboard.StableSort

open OrderDual (toDual)

variable {α β : Type} {less : α → α → Bool}

/-! ## Ranks -/

/-- The elements are in the order of their ranks. -/
abbrev RankedBy [LE β] (less : α → α → Bool) (rank : α → β) (xs : List α) : Prop :=
  Ranks less (fun x y => rank x ≤ rank y) xs

/-- What is less than the first of two elements in order is less than the second. -/
theorem Ranks.filter_less {le : α → α → Prop} {xs : List α} (h : Ranks less le xs) {a b : α}
    (ha : a ∈ xs) (hb : b ∈ xs) (hab : le a b) :
    (xs.filter fun z => less z a) = (xs.filter fun z => less z b).filter fun z => less z a := by
  rw [List.filter_filter]
  refine List.filter_congr fun z hz => ?_
  cases hza : less z a with
  | false => rfl
  | true =>
    rw [h.less_iff z hz a ha] at hza
    have hzb : less z b = true :=
      (h.less_iff z hz b hb).2 fun hbz => hza (h.trans a ha b hb z hz hab hbz)
    rw [hzb, Bool.true_and]

/-- An order that ranks some elements is that of their ranks: an element ranks above all those that
are less. -/
theorem Ranks.exists_rank {le : α → α → Prop} {xs : List α} (h : Ranks less le xs) :
    ∃ rank : α → Nat, RankedBy less rank xs := by
  refine ⟨fun x => (xs.filter fun z => less z x).length, fun _ _ _ _ => Nat.le_total _ _,
    fun _ _ _ _ _ _ => Nat.le_trans, fun x hx y hy => ?_⟩
  rw [h.less_iff x hx y hy, Nat.not_le]
  show ¬le y x ↔ (xs.filter fun z => less z x).length < (xs.filter fun z => less z y).length
  constructor
  · intro hyx
    have hxy := (h.total x hx y hy).resolve_right hyx
    have hself : less x x = false := by
      rw [← Bool.not_eq_true, h.less_iff x hx x hx, not_not]
      exact (h.total x hx x hx).elim id id
    rw [h.filter_less hx hy hxy, List.length_filter_lt_length_iff_exists]
    exact ⟨x, List.mem_filter.2 ⟨hx, (h.less_iff x hx y hy).2 hyx⟩, by rw [hself]; decide⟩
  · intro hlt hyx
    rw [h.filter_less hy hx hyx] at hlt
    exact Nat.not_lt.2 (List.length_filter_le _ _) hlt

variable [LinearOrder β] {rank : α → β}

/-- Where elements are ranked, one is less than another one exactly if its rank is. -/
theorem Ranks.less_iff_lt {xs : List α} (h : RankedBy less rank xs) {x y : α}
    (hx : x ∈ xs) (hy : y ∈ xs) : less x y = true ↔ rank x < rank y :=
  (h.less_iff x hx y hy).trans not_le

/-- Where elements are ranked, one is not less than another one exactly if its rank is not. -/
theorem Ranks.less_eq_false_iff {xs : List α} (h : RankedBy less rank xs) {x y : α} (hx : x ∈ xs)
    (hy : y ∈ xs) : less x y = false ↔ rank y ≤ rank x := by
  rw [← Bool.not_eq_true, h.less_iff_lt hx hy, not_lt]

/-! ## Arrangements -/

/-- No rank in an ascending list is below the first one. -/
theorem le_of_ascending {a : α} {as : List α}
    (h : (a :: as).Pairwise fun a b => rank a ≤ rank b) : ∀ b ∈ a :: as, rank a ≤ rank b :=
  List.forall_mem_cons.2 ⟨le_rfl, (List.pairwise_cons.1 h).1⟩

/-- A list is the stable arrangement of another one by ranks. -/
structure IsArrangement (rank : α → β) (xs ys : List α) : Prop where
  /-- The ranks ascend. -/
  ascending : ys.Pairwise fun a b => rank a ≤ rank b
  /-- The elements of each rank are the same, in the same order. -/
  stable : ∀ k, ys.filter (fun a => rank a = k) = xs.filter fun a => rank a = k

namespace IsArrangement

variable {xs ys zs as bs : List α} {a : α}

/-- An arrangement has the elements of the list. -/
theorem mem_iff (h : IsArrangement rank xs ys) : a ∈ ys ↔ a ∈ xs := by
  have hmem : ∀ zs : List α, a ∈ zs ↔ a ∈ zs.filter fun b => rank b = rank a := by
    intro zs
    simp [List.mem_filter]
  rw [hmem ys, h.stable, ← hmem xs]

/-- A list whose ranks ascend is its own arrangement. -/
theorem of_ascending (h : xs.Pairwise fun a b => rank a ≤ rank b) : IsArrangement rank xs xs :=
  ⟨h, fun _ => rfl⟩

/-- A list has one arrangement only. -/
theorem unique (h : IsArrangement rank xs ys) (h' : IsArrangement rank xs zs) : ys = zs := by
  have hsame : ∀ k, ys.filter (fun a => rank a = k) = zs.filter fun a => rank a = k := fun k =>
    (h.stable k).trans (h'.stable k).symm
  have hys := h.ascending
  have hzs := h'.ascending
  clear h h'
  induction ys generalizing zs with
  | nil =>
    cases zs with
    | nil => rfl
    | cons z zs =>
      have hz := hsame (rank z)
      simp at hz
  | cons y ys ih =>
    cases zs with
    | nil =>
      have hy := hsame (rank y)
      simp at hy
    | cons z zs =>
      have harranged : IsArrangement rank (z :: zs) (y :: ys) := ⟨hys, hsame⟩
      have hrank : rank y = rank z := le_antisymm
        (le_of_ascending hys z (harranged.mem_iff.2 List.mem_cons_self))
        (le_of_ascending hzs y (harranged.mem_iff.1 List.mem_cons_self))
      have hfirst := hsame (rank y)
      simp only [List.filter_cons, hrank, decide_true, if_true, List.cons.injEq] at hfirst
      obtain ⟨rfl, -⟩ := hfirst
      have hrest : ∀ k, ys.filter (fun a => rank a = k) = zs.filter fun a => rank a = k := by
        intro k
        have hk := hsame k
        simp only [List.filter_cons] at hk
        split at hk
        · exact (List.cons.inj hk).2
        · exact hk
      rw [ih hrest hys.of_cons hzs.of_cons]

/-- What arranges the arrangement of a list in front of another list arranges the two lists. -/
theorem of_front (hxs : IsArrangement rank xs as) (h : IsArrangement rank (as ++ ys) zs) :
    IsArrangement rank (xs ++ ys) zs where
  ascending := h.ascending
  stable k := by rw [h.stable, List.filter_append, hxs.stable, List.filter_append]

/-- What arranges the arrangements of two lists, one behind the other, arranges the two lists. -/
theorem of_both (hxs : IsArrangement rank xs as) (hys : IsArrangement rank ys bs)
    (h : IsArrangement rank (as ++ bs) zs) : IsArrangement rank (xs ++ ys) zs where
  ascending := h.ascending
  stable k := by rw [h.stable, List.filter_append, hxs.stable, hys.stable, List.filter_append]

/-- The arrangements of two lists are ranked where the two lists are. -/
theorem ranks (hxs : IsArrangement rank xs as) (hys : IsArrangement rank ys bs)
    (h : RankedBy less rank (xs ++ ys)) :
    RankedBy less rank (as ++ bs) := by
  refine h.mono fun a ha => ?_
  rwa [List.mem_append, hxs.mem_iff, hys.mem_iff, ← List.mem_append] at ha

/-- An element that comes before the others is taken from where it stands to the front. -/
theorem pull (h : IsArrangement rank (xs ++ ys) zs) (hxs : ∀ b ∈ xs, rank a < rank b)
    (hys : ∀ b ∈ ys, rank a ≤ rank b) : IsArrangement rank (xs ++ a :: ys) (a :: zs) where
  ascending := by
    refine List.pairwise_cons.2 ⟨fun b hb => ?_, h.ascending⟩
    rcases List.mem_append.1 (h.mem_iff.1 hb) with hb | hb
    · exact (hxs b hb).le
    · exact hys b hb
  stable k := by
    rw [List.filter_cons, h.stable, List.filter_append, List.filter_append, List.filter_cons]
    split
    · next hk =>
      have hnone : xs.filter (fun b => rank b = k) = [] := by
        refine List.filter_eq_nil_iff.2 fun b hb hbk => ?_
        rw [decide_eq_true_eq] at hk hbk
        exact absurd (hxs b hb) (by rw [hk, hbk]; exact lt_irrefl k)
      rw [hnone, List.nil_append, List.nil_append]
    · rfl

/-- An element that comes before the others stays in front of them. -/
theorem cons (h : IsArrangement rank ys zs) (hys : ∀ b ∈ ys, rank a ≤ rank b) :
    IsArrangement rank (a :: ys) (a :: zs) := by
  have hfront : IsArrangement rank ([] ++ ys) zs := h
  exact hfront.pull nofun hys

/-- A list is arranged if its parts are, where all elements of the left part come first. -/
theorem of_parts {p : α → Bool} {below above : List α}
    (hbelow : IsArrangement rank (xs.filter p) below)
    (habove : IsArrangement rank (xs.filter fun x => !p x) above)
    (hp : ∀ x ∈ xs, ∀ y ∈ xs, p x = true → p y = false → rank x < rank y) :
    IsArrangement rank xs (below ++ above) where
  ascending := by
    refine List.pairwise_append.2 ⟨hbelow.ascending, habove.ascending, fun x hx y hy => ?_⟩
    rw [hbelow.mem_iff, List.mem_filter] at hx
    rw [habove.mem_iff, List.mem_filter, Bool.not_eq_true'] at hy
    exact (hp x hx.1 y hy.1 hx.2 hy.2).le
  stable k := by
    rw [List.filter_append, hbelow.stable, habove.stable, List.filter_filter, List.filter_filter]
    -- All elements of the rank are in the same part.
    by_cases hsome : ∃ x ∈ xs, rank x = k ∧ p x = true
    · obtain ⟨x, hx, hxk, hpx⟩ := hsome
      have hleft : ∀ y ∈ xs, rank y = k → p y = true := by
        intro y hy hyk
        by_contra hpy
        have hlt := hp x hx y hy hpx (Bool.eq_false_iff.2 hpy)
        rw [hxk, hyk] at hlt
        exact lt_irrefl k hlt
      have hnone : xs.filter (fun y => decide (rank y = k) && !p y) = [] :=
        List.filter_eq_nil_iff.2 fun y hy => by simpa using hleft y hy
      rw [hnone, List.append_nil]
      exact List.filter_congr fun y hy => by simpa using hleft y hy
    · have hright : ∀ y ∈ xs, rank y = k → p y = false := fun y hy hyk =>
        Bool.eq_false_iff.2 fun hpy => hsome ⟨y, hy, hyk, hpy⟩
      have hnone : xs.filter (fun y => decide (rank y = k) && p y) = [] :=
        List.filter_eq_nil_iff.2 fun y hy => by simpa using hright y hy
      rw [hnone, List.nil_append]
      exact List.filter_congr fun y hy => by simpa using hright y hy

/-- Reversed lists are arranged by the reverse order. -/
theorem reverse (h : IsArrangement (toDual ∘ rank) xs ys) :
    IsArrangement rank xs.reverse ys.reverse where
  ascending := List.pairwise_reverse.2 h.ascending
  stable k := by
    rw [List.filter_reverse, List.filter_reverse]
    exact congrArg List.reverse (h.stable (toDual k))

end IsArrangement

/-! ## Cuts -/

/-- Two lists are cut so that what is in front comes before what is behind; elements of one rank
come from the first list first. -/
structure IsCut (rank : α → β) (xs ys : List α) (i j : Nat) : Prop where
  /-- The first list in front of the cut, and the second one behind it. -/
  first : ∀ a ∈ xs.take i, ∀ b ∈ ys.drop j, rank a ≤ rank b
  /-- The second list in front of the cut, and the first one behind it. -/
  second : ∀ b ∈ ys.take j, ∀ a ∈ xs.drop i, rank b < rank a

namespace IsCut

variable {xs ys as bs : List α} {i j i' j' : Nat}

/-- In front of both lists there is a cut. -/
theorem zero : IsCut rank xs ys 0 0 :=
  ⟨fun _ ha => absurd ha List.not_mem_nil, fun _ hb => absurd hb List.not_mem_nil⟩

/-- Without elements in the first list, every place is a cut. -/
theorem nil_left : IsCut rank [] ys i j where
  first a ha := by
    rw [List.take_nil] at ha
    exact absurd ha List.not_mem_nil
  second b _ a ha := by
    rw [List.drop_nil] at ha
    exact absurd ha List.not_mem_nil

/-- Without elements in the second list, every place is a cut. -/
theorem nil_right : IsCut rank xs [] i j where
  first a _ b hb := by
    rw [List.drop_nil] at hb
    exact absurd hb List.not_mem_nil
  second b hb := by
    rw [List.take_nil] at hb
    exact absurd hb List.not_mem_nil

/-- A cut of reversed lists is a cut from the other side. -/
theorem reverse (h : IsCut (toDual ∘ rank) ys.reverse xs.reverse j i) :
    IsCut rank xs ys (xs.length - i) (ys.length - j) where
  first a ha b hb := by
    refine h.first b ?_ a ?_
    · rwa [List.take_reverse, List.mem_reverse]
    · rwa [List.drop_reverse, List.mem_reverse]
  second b hb a ha := by
    refine h.second a ?_ b ?_
    · rwa [List.take_reverse, List.mem_reverse]
    · rwa [List.drop_reverse, List.mem_reverse]

/-- A cut with no more elements in front of it lies in front of another one in both lists. -/
theorem nested (h : IsCut rank xs ys i j) (h' : IsCut rank xs ys i' j') (hle : i + j ≤ i' + j')
    (hi : i ≤ xs.length) (hi' : i' ≤ xs.length) (hj : j ≤ ys.length) (hj' : j' ≤ ys.length) :
    i ≤ i' ∧ j ≤ j' := by
  have hdrop : ∀ {zs : List α} {m n : Nat} (_ : m ≤ n) (hn : n < zs.length), zs[n] ∈ zs.drop m :=
    fun {_ m n} hmn hn => List.mem_drop_iff_getElem.2
      ⟨n - m, by omega, by simp only [Nat.add_sub_cancel' hmn]⟩
  have htake : ∀ {zs : List α} {m n : Nat} (_ : n < m) (hn : n < zs.length), zs[n] ∈ zs.take m :=
    fun {_ _ n} hmn hn => List.mem_take_iff_getElem.2 ⟨n, by omega, rfl⟩
  refine ⟨?_, ?_⟩
  · by_contra hlt
    have hfirst := h.first xs[i'] (htake (by omega) (by omega)) ys[j] (hdrop le_rfl (by omega))
    have hsecond := h'.second ys[j] (htake (by omega) (by omega)) xs[i'] (hdrop le_rfl (by omega))
    exact absurd hsecond (not_lt.2 hfirst)
  · by_contra hlt
    have hsecond := h.second ys[j'] (htake (by omega) (by omega)) xs[i] (hdrop le_rfl (by omega))
    have hfirst := h'.first xs[i] (htake (by omega) (by omega)) ys[j'] (hdrop le_rfl (by omega))
    exact absurd hsecond (not_lt.2 hfirst)

/-- A cut in front of another one cuts what is in front of that. -/
theorem take (h : IsCut rank xs ys i j) (hi : i ≤ i') (hj : j ≤ j') :
    IsCut rank (xs.take i') (ys.take j') i j where
  first a ha b hb := by
    rw [List.take_take, Nat.min_eq_left hi] at ha
    rw [List.drop_take] at hb
    exact h.first a ha b (List.mem_of_mem_take hb)
  second b hb a ha := by
    rw [List.take_take, Nat.min_eq_left hj] at hb
    rw [List.drop_take] at ha
    exact h.second b hb a (List.mem_of_mem_take ha)

/-- What is in front of a cut and what is behind it can be arranged apart. -/
theorem glue (h : IsCut rank xs ys i j) (hxs : xs.Pairwise fun a b => rank a ≤ rank b)
    (hys : ys.Pairwise fun a b => rank a ≤ rank b)
    (hfront : IsArrangement rank (xs.take i ++ ys.take j) as)
    (hbehind : IsArrangement rank (xs.drop i ++ ys.drop j) bs) :
    IsArrangement rank (xs ++ ys) (as ++ bs) where
  ascending := by
    refine List.pairwise_append.2 ⟨hfront.ascending, hbehind.ascending, fun a ha b hb => ?_⟩
    rcases List.mem_append.1 (hfront.mem_iff.1 ha) with ha | ha <;>
      rcases List.mem_append.1 (hbehind.mem_iff.1 hb) with hb | hb
    · exact hxs.rel_of_mem_take_of_mem_drop ha hb
    · exact h.first a ha b hb
    · exact (h.second a ha b hb).le
    · exact hys.rel_of_mem_take_of_mem_drop ha hb
  stable k := by
    rw [List.filter_append, hfront.stable, hbehind.stable, List.filter_append, List.filter_append,
      List.filter_append]
    conv_rhs =>
      rw [← List.take_append_drop i xs, ← List.take_append_drop j ys, List.filter_append,
        List.filter_append]
    -- Between the two lists, no rank stands on both sides of the cut.
    by_cases hnone : (ys.take j).filter (fun a => rank a = k) = []
    · simp only [hnone, List.append_nil, List.nil_append, List.append_assoc]
    · obtain ⟨b, hb⟩ := List.exists_mem_of_ne_nil _ hnone
      rw [List.mem_filter, decide_eq_true_eq] at hb
      have hempty : (xs.drop i).filter (fun a => rank a = k) = [] := by
        refine List.filter_eq_nil_iff.2 fun a ha hak => ?_
        rw [decide_eq_true_eq] at hak
        exact absurd (h.second b hb.1 a ha) (by rw [hak, hb.2]; exact lt_irrefl k)
      simp only [hempty, List.append_nil, List.nil_append, List.append_assoc]

end IsCut

end Chartboard.StableSort
