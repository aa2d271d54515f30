import Chartboard.Proofs.StableSort.Permutation
import Mathlib.Data.List.Chain
import Mathlib.Data.List.Induction

/-!
# Sorted and stable

Where an order ranks the elements of a list, insertion puts them in that order, and elements that
are tied keep the order in which they were given. A list that is in order already is left as it is,
whether or not the order ranks its elements.
-/

namespace Chartboard.StableSort

variable {α : Type} {less : α → α → Bool} {le : α → α → Prop}

/-- An order ranks some elements, and a test tells which of two comes before the other. -/
structure Ranks (less : α → α → Bool) (le : α → α → Prop) (xs : List α) : Prop where
  /-- Of any two elements one does not come after the other. -/
  total : ∀ x ∈ xs, ∀ y ∈ xs, le x y ∨ le y x
  /-- The order goes on from one element to the next. -/
  trans : ∀ x ∈ xs, ∀ y ∈ xs, ∀ z ∈ xs, le x y → le y z → le x z
  /-- An element is less than another one if that one comes after it. -/
  less_iff : ∀ x ∈ xs, ∀ y ∈ xs, (less x y = true ↔ ¬le y x)

/-- An order that ranks some elements ranks any selection of them. -/
theorem Ranks.mono {xs ys : List α} (h : Ranks less le xs) (hsub : ∀ y ∈ ys, y ∈ xs) :
    Ranks less le ys where
  total x hx y hy := h.total x (hsub x hx) y (hsub y hy)
  trans x hx y hy z hz := h.trans x (hsub x hx) y (hsub y hy) z (hsub z hz)
  less_iff x hx y hy := h.less_iff x (hsub x hx) y (hsub y hy)

/-! ## Insertion -/

/-- A sorted list, which is given from its end, stays sorted. -/
theorem insertBack_sorted {x : α} {s : List α} (h : Ranks less le (x :: s))
    (hs : s.Pairwise fun a b => le b a) :
    (insertBack less x s).Pairwise fun a b => le b a := by
  induction s with
  | nil => exact List.pairwise_singleton _ x
  | cons y rest ih =>
    obtain ⟨hy, hrest⟩ := List.pairwise_cons.1 hs
    have hmem : ∀ z ∈ x :: rest, z ∈ x :: y :: rest := fun z hz =>
      (List.mem_cons.1 hz).elim (fun hzx => hzx ▸ List.mem_cons_self)
        fun hz => List.mem_cons_of_mem x (List.mem_cons_of_mem y hz)
    have hx : x ∈ x :: y :: rest := List.mem_cons_self
    have hyx : y ∈ x :: y :: rest := List.mem_cons_of_mem x List.mem_cons_self
    rw [insertBack]
    split
    · next hless =>
      refine List.pairwise_cons.2 ⟨fun z hz => ?_, ih (h.mono hmem) hrest⟩
      rcases List.mem_cons.1 ((insertBack_perm less x rest).mem_iff.1 hz) with rfl | hz
      · exact (h.total z hx y hyx).resolve_right ((h.less_iff z hx y hyx).1 hless)
      · exact hy z hz
    · next hless =>
      have hle : le y x := by
        by_contra hnot
        exact hless ((h.less_iff x hx y hyx).2 hnot)
      refine List.pairwise_cons.2 ⟨fun z hz => ?_, hs⟩
      rcases List.mem_cons.1 hz with rfl | hz
      · exact hle
      · exact h.trans z (hmem z (List.mem_cons_of_mem x hz)) y hyx x hx (hy z hz) hle

/-- An element passes no element that it is tied with. -/
theorem insertBack_filter {x : α} {s : List α} (h : Ranks less le (x :: s)) {p : α → Bool}
    (hties : ∀ a ∈ x :: s, ∀ b ∈ x :: s, p a = true → p b = true → le a b) :
    (insertBack less x s).filter p = (x :: s).filter p := by
  induction s with
  | nil => rfl
  | cons y rest ih =>
    have hmem : ∀ z ∈ x :: rest, z ∈ x :: y :: rest := fun z hz =>
      (List.mem_cons.1 hz).elim (fun hzx => hzx ▸ List.mem_cons_self)
        fun hz => List.mem_cons_of_mem x (List.mem_cons_of_mem y hz)
    have hx : x ∈ x :: y :: rest := List.mem_cons_self
    have hyx : y ∈ x :: y :: rest := List.mem_cons_of_mem x List.mem_cons_self
    rw [insertBack]
    split
    · next hless =>
      have hrest := ih (h.mono hmem) fun a ha b hb => hties a (hmem a ha) b (hmem b hb)
      have hapart : p y = true → p x = true → False := fun hpy hpx =>
        (h.less_iff x hx y hyx).1 hless (hties y hyx x hx hpy hpx)
      rw [List.filter_cons, hrest]
      simp only [List.filter_cons]
      by_cases hpx : p x = true
      · have hpy : ¬p y = true := fun hpy => hapart hpy hpx
        simp only [if_pos hpx, if_neg hpy]
      · simp only [if_neg hpx]
    · rfl

/-- One more element is inserted from the back. -/
theorem insertAll_concat (less : α → α → Bool) (sorted xs : List α) (x : α) :
    insertAll less sorted (xs ++ [x]) =
      (insertBack less x (insertAll less sorted xs).reverse).reverse := by
  unfold insertAll
  rw [List.foldl_append, List.foldl_cons, List.foldl_nil, List.reverse_reverse]

/-- What is there when one more element is inserted. -/
theorem mem_of_mem_insertAll {sorted xs : List α} {x y : α}
    (h : y ∈ x :: (insertAll less sorted xs).reverse) : y ∈ sorted ++ (xs ++ [x]) := by
  rw [← List.append_assoc]
  rcases List.mem_cons.1 h with rfl | h
  · exact List.mem_append_right _ (List.mem_singleton_self y)
  · exact List.mem_append_left [x]
      ((insertAll_perm less sorted xs).mem_iff.1 (List.mem_reverse.1 h))

/-- Ranked elements that are inserted into sorted ones are sorted. -/
theorem insertAll_sorted {sorted xs : List α} (h : Ranks less le (sorted ++ xs))
    (hsorted : sorted.Pairwise le) : (insertAll less sorted xs).Pairwise le := by
  induction xs using List.reverseRecOn with
  | nil =>
    show sorted.reverse.reverse.Pairwise le
    rwa [List.reverse_reverse]
  | append_singleton xs x ih =>
    have hfront : ∀ y ∈ sorted ++ xs, y ∈ sorted ++ (xs ++ [x]) := fun y hy => by
      rw [← List.append_assoc]
      exact List.mem_append_left [x] hy
    have hall := ih (h.mono hfront)
    rw [insertAll_concat, List.pairwise_reverse]
    exact insertBack_sorted (h.mono fun y hy => mem_of_mem_insertAll hy)
      (List.pairwise_reverse.2 hall)

/-- Elements that tie keep the order in which they came. -/
theorem insertAll_filter {sorted xs : List α} (h : Ranks less le (sorted ++ xs)) {p : α → Bool}
    (hties : ∀ a ∈ sorted ++ xs, ∀ b ∈ sorted ++ xs, p a = true → p b = true → le a b) :
    (insertAll less sorted xs).filter p = (sorted ++ xs).filter p := by
  induction xs using List.reverseRecOn with
  | nil =>
    show sorted.reverse.reverse.filter p = _
    rw [List.reverse_reverse, List.append_nil]
  | append_singleton xs x ih =>
    have hfront : ∀ y ∈ sorted ++ xs, y ∈ sorted ++ (xs ++ [x]) := fun y hy => by
      rw [← List.append_assoc]
      exact List.mem_append_left [x] hy
    have hmem : ∀ y ∈ x :: (insertAll less sorted xs).reverse, y ∈ sorted ++ (xs ++ [x]) :=
      fun y hy => mem_of_mem_insertAll hy
    have hrest := ih (h.mono hfront) fun a ha b hb => hties a (hfront a ha) b (hfront b hb)
    have hinsert := insertBack_filter (h.mono hmem)
      fun a ha b hb => hties a (hmem a ha) b (hmem b hb)
    rw [insertAll_concat, List.filter_reverse, hinsert, ← List.filter_reverse, List.reverse_cons,
      List.reverse_reverse, List.filter_append, hrest, ← List.filter_append, List.append_assoc]

/-- Ranked elements are sorted by insertion. -/
theorem byInsertion_sorted {xs : List α} (h : Ranks less le xs) :
    (byInsertion less xs).Pairwise le :=
  insertAll_sorted h List.Pairwise.nil

/-- Elements that tie keep the order in which they came when they are sorted by insertion. -/
theorem byInsertion_filter {xs : List α} (h : Ranks less le xs) {p : α → Bool}
    (hties : ∀ a ∈ xs, ∀ b ∈ xs, p a = true → p b = true → le a b) :
    (byInsertion less xs).filter p = xs.filter p :=
  insertAll_filter h hties

/-! ## Lists in order -/

/-- An element that is not less than the last one of a sorted list is put at its end. -/
theorem insertBack_of_not_less {x y : α} {rest : List α} (h : less x y = false) :
    insertBack less x (y :: rest) = x :: y :: rest := by
  rw [insertBack, h, if_neg Bool.false_ne_true]

/-- Insertion leaves a list as it is if no element is less than the one in front of it, whether or
not the order ranks the elements. -/
theorem byInsertion_of_isChain {xs : List α} (h : xs.IsChain fun x y => less y x = false) :
    byInsertion less xs = xs := by
  induction xs using List.reverseRecOn with
  | nil => rfl
  | append_singleton xs x ih =>
    obtain ⟨hfront, -, hlast⟩ := List.isChain_append.1 h
    rw [byInsertion, insertAll_concat, ← byInsertion, ih hfront]
    cases hxs : xs.reverse with
    | nil =>
      rw [List.reverse_eq_nil_iff.1 hxs]
      rfl
    | cons y rest =>
      have hy : xs.getLast? = some y := by
        rw [← List.head?_reverse, hxs, List.head?_cons]
      have hless : less x y = false := hlast y (by rw [hy]; rfl) x rfl
      rw [insertBack_of_not_less hless, ← hxs, ← List.reverse_concat, List.reverse_reverse]

/-- A short list is sorted whatever the order is. -/
theorem sort_of_length_le {xs : List α} (hlength : xs.length ≤ insertionLength) :
    sort less xs = some (byInsertion less xs) :=
  if_pos hlength

end Chartboard.StableSort
