import Chartboard.Chart.Filter
import Chartboard.Proofs.Decimal.Finite

/-!
# Values that agree

Filters are compared by the agreement of their values: doubles are compared as numbers, and anything
else by its structure. Agreement goes in both directions and along chains, and a value agrees with
itself if no double in it is lacking a number, as in every canonical value.
-/

namespace Chartboard

namespace Json

/-- Numbers are the same from both sides. -/
theorem Number.same_symm {m n : Number} (h : m.same n) : n.same m := by
  cases m with
  | int i =>
    cases n with
    | int j => exact beq_iff_eq.2 (beq_iff_eq.1 h).symm
    | float y => cases h
  | float x =>
    cases n with
    | int j => cases h
    | float y => exact Double.beq_symm h

/-- Numbers that are the same as a third one are the same. -/
theorem Number.same_trans {l m n : Number} (h : l.same m) (h' : m.same n) : l.same n := by
  cases m with
  | int j =>
    cases l with
    | float x => cases h
    | int i =>
      cases n with
      | float z => cases h'
      | int k => exact beq_iff_eq.2 ((beq_iff_eq.1 h).trans (beq_iff_eq.1 h'))
  | float y =>
    cases l with
    | int i => cases h
    | float x =>
      cases n with
      | int k => cases h'
      | float z => exact Double.beq_trans h h'

namespace Value

mutual

/-- Values are the same from both sides. -/
theorem same_symm : ∀ {v w : Value}, same v w → same w v
  | null, null, _ => rfl
  | bool _, bool _, h => beq_iff_eq.2 (beq_iff_eq.1 h).symm
  | number _, number _, h => Number.same_symm h
  | string _, string _, h => beq_iff_eq.2 (beq_iff_eq.1 h).symm
  | array _, array _, h => sameItems_symm h
  | object _, object _, h => sameMembers_symm h

/-- Items are the same from both sides. -/
theorem sameItems_symm : ∀ {xs ys : List Value}, sameItems xs ys → sameItems ys xs
  | [], [], _ => rfl
  | _ :: _, _ :: _, h => by
    obtain ⟨hhead, hrest⟩ := Bool.and_eq_true_iff.1 h
    exact Bool.and_eq_true_iff.2 ⟨same_symm hhead, sameItems_symm hrest⟩

/-- Members are the same from both sides. -/
theorem sameMembers_symm : ∀ {xs ys : List (String × Value)},
    sameMembers xs ys → sameMembers ys xs
  | [], [], _ => rfl
  | (_, _) :: _, (_, _) :: _, h => by
    obtain ⟨hhead, hrest⟩ := Bool.and_eq_true_iff.1 h
    obtain ⟨hkey, hvalue⟩ := Bool.and_eq_true_iff.1 hhead
    exact Bool.and_eq_true_iff.2
      ⟨Bool.and_eq_true_iff.2 ⟨beq_iff_eq.2 (beq_iff_eq.1 hkey).symm, same_symm hvalue⟩,
        sameMembers_symm hrest⟩

end

mutual

/-- Values that are the same as a third one are the same. -/
theorem same_trans : ∀ {u v w : Value}, same u v → same v w → same u w
  | null, null, null, _, _ => rfl
  | bool _, bool _, bool _, h, h' => beq_iff_eq.2 ((beq_iff_eq.1 h).trans (beq_iff_eq.1 h'))
  | number _, number _, number _, h, h' => Number.same_trans h h'
  | string _, string _, string _, h, h' =>
    beq_iff_eq.2 ((beq_iff_eq.1 h).trans (beq_iff_eq.1 h'))
  | array _, array _, array _, h, h' => sameItems_trans h h'
  | object _, object _, object _, h, h' => sameMembers_trans h h'

/-- Items that are the same as third ones are the same. -/
theorem sameItems_trans : ∀ {xs ys zs : List Value},
    sameItems xs ys → sameItems ys zs → sameItems xs zs
  | [], [], [], _, _ => rfl
  | _ :: _, _ :: _, _ :: _, h, h' => by
    obtain ⟨hhead, hrest⟩ := Bool.and_eq_true_iff.1 h
    obtain ⟨hhead', hrest'⟩ := Bool.and_eq_true_iff.1 h'
    exact Bool.and_eq_true_iff.2 ⟨same_trans hhead hhead', sameItems_trans hrest hrest'⟩

/-- Members that are the same as third ones are the same. -/
theorem sameMembers_trans : ∀ {xs ys zs : List (String × Value)},
    sameMembers xs ys → sameMembers ys zs → sameMembers xs zs
  | [], [], [], _, _ => rfl
  | (_, _) :: _, (_, _) :: _, (_, _) :: _, h, h' => by
    obtain ⟨hhead, hrest⟩ := Bool.and_eq_true_iff.1 h
    obtain ⟨hhead', hrest'⟩ := Bool.and_eq_true_iff.1 h'
    obtain ⟨hkey, hvalue⟩ := Bool.and_eq_true_iff.1 hhead
    obtain ⟨hkey', hvalue'⟩ := Bool.and_eq_true_iff.1 hhead'
    have hkeys := beq_iff_eq.2 ((beq_iff_eq.1 hkey).trans (beq_iff_eq.1 hkey'))
    exact Bool.and_eq_true_iff.2
      ⟨Bool.and_eq_true_iff.2 ⟨hkeys, same_trans hvalue hvalue'⟩, sameMembers_trans hrest hrest'⟩

end

mutual

/-- A canonical value agrees with itself. -/
theorem same_refl : ∀ {v : Value}, v.isCanonical → same v v
  | null, _ => rfl
  | bool _, _ => beq_self_eq_true _
  | number (.int _), _ => beq_self_eq_true (α := Int) _
  | number (.float _), h => Double.beq_self (Double.isNaN_of_isFinite h)
  | string _, _ => beq_self_eq_true _
  | array _, h => sameItems_refl h
  | object _, h => sameMembers_refl (Bool.and_eq_true_iff.1 h).2

/-- Canonical items are the same as themselves. -/
theorem sameItems_refl : ∀ {xs : List Value}, areCanonical xs → sameItems xs xs
  | [], _ => rfl
  | _ :: _, h => by
    obtain ⟨hhead, hrest⟩ := Bool.and_eq_true_iff.1 h
    exact Bool.and_eq_true_iff.2 ⟨same_refl hhead, sameItems_refl hrest⟩

/-- Canonical members are the same as themselves. -/
theorem sameMembers_refl : ∀ {xs : List (String × Value)}, membersCanonical xs → sameMembers xs xs
  | [], _ => rfl
  | (_, _) :: _, h => by
    obtain ⟨hhead, hrest⟩ := Bool.and_eq_true_iff.1 h
    exact Bool.and_eq_true_iff.2
      ⟨Bool.and_eq_true_iff.2 ⟨beq_self_eq_true _, same_refl hhead⟩, sameMembers_refl hrest⟩

end

/-- Members are canonical exactly if all their values are. -/
theorem membersCanonical_iff {xs : List (String × Value)} :
    membersCanonical xs ↔ ∀ e ∈ xs, e.2.isCanonical := by
  induction xs with
  | nil => simp [membersCanonical]
  | cons x xs ih =>
    obtain ⟨key, v⟩ := x
    simp [membersCanonical, ih]

end Value

end Json

/-! ## Filter sets -/

namespace FilterSet

open Json Json.Value

/-- The values of all filters are canonical. -/
def isCanonical (set : FilterSet) : Bool :=
  membersCanonical set.entries

/-- Sets of filters are the same from both sides. -/
theorem same_symm {a b : FilterSet} (h : a.same b) : b.same a :=
  sameMembers_symm h

/-- Sets of filters that are the same as a third one are the same. -/
theorem same_trans {a b c : FilterSet} (h : a.same b) (h' : b.same c) : a.same c :=
  sameMembers_trans h h'

/-- Filter sets that agree with each other agree with the same ones. -/
theorem same_congr {a b c : FilterSet} (h : a.same b) : a.same c ↔ b.same c :=
  ⟨fun hac => same_trans (same_symm h) hac, fun hbc => same_trans h hbc⟩

/-- A canonical filter set agrees with itself. -/
theorem same_refl {set : FilterSet} (h : set.isCanonical) : set.same set :=
  sameMembers_refl h

/-- Without filters there is nothing that is not canonical. -/
theorem isCanonical_empty : isCanonical ∅ :=
  rfl

/-- A canonical value can be set as a filter. -/
theorem isCanonical_insert {set : FilterSet} (h : set.isCanonical) {v : Value}
    (hv : v.isCanonical) (column : String) : isCanonical (set.insert column v) := by
  refine membersCanonical_iff.2 fun e he => ?_
  rcases SortedMap.mem_insertEntry he with rfl | he
  · exact hv
  · exact membersCanonical_iff.1 h e he

/-- A filter can be taken away. -/
theorem isCanonical_erase {set : FilterSet} (h : set.isCanonical) (column : String) :
    isCanonical (set.erase column) :=
  membersCanonical_iff.2 fun e he => membersCanonical_iff.1 h e (List.mem_filter.1 he).1

/-- Merging a canonical value keeps a filter set canonical. -/
theorem isCanonical_merge {set : FilterSet} (h : set.isCanonical) (policy : MergePolicy)
    {delta : FilterDelta} (hv : delta.value.isCanonical) :
    (set.merge policy delta).isCanonical := by
  unfold merge
  cases policy with
  | replace => exact isCanonical_insert h hv delta.column
  | toggle =>
    simp only
    split
    · split
      · exact isCanonical_erase h delta.column
      · exact isCanonical_insert h hv delta.column
    · exact isCanonical_insert h hv delta.column

end FilterSet

end Chartboard
