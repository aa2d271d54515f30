import Chartboard.Proofs.Decimal.Ordered
import Chartboard.Proofs.Ledger.Lookup
import Chartboard.Proofs.Query.Ordering
import Chartboard.Render.Adapt

/-!
# Rows ranked by one key

Rows that have null or a number under one key are ranked by it: null comes last in both directions,
and numbers are in the order of doubles, of which none is tied with two different ones. So they can
always be sorted by that key. What an aggregate makes of some values is such a cell.
-/

namespace Chartboard

open Json (Value)

/-! ## Numbers in a direction -/

namespace SortOrder

/-- One cell may stand before another one, where they are seen as numbers. What has no number stands
last in both directions. -/
def places : SortOrder → Option Float → Option Float → Bool
  | _, _, none => true
  | _, none, some _ => false
  | .asc, some x, some y => x ≤ y
  | .desc, some x, some y => y ≤ x

/-- Each of two cells may stand before the other one. -/
def ties (order : SortOrder) (x y : Option Float) : Bool :=
  order.places x y && order.places y x

/-- Null, or a number that can be compared. -/
def Comparable (x : Option Float) : Prop :=
  ∀ y, x = some y → y.isNaN = false

variable {x y z : Option Float}

/-- Of two comparable numbers one may stand before the other. -/
theorem places_total (order : SortOrder) (hx : Comparable x) (hy : Comparable y) :
    order.places x y ∨ order.places y x := by
  cases x with
  | none => cases order <;> exact Or.inr rfl
  | some a =>
    cases y with
    | none => cases order <;> exact Or.inl rfl
    | some b =>
      have htotal := Double.total (hx a rfl) (hy b rfl)
      cases order with
      | asc => exact htotal.imp decide_eq_true decide_eq_true
      | desc => exact htotal.symm.imp decide_eq_true decide_eq_true

/-- What may stand before a second number that may stand before a third may stand before the
third. -/
theorem places_trans (order : SortOrder) (hx : Comparable x) (hy : Comparable y)
    (hz : Comparable z) (hxy : order.places x y) (hyz : order.places y z) : order.places x z := by
  cases z with
  | none => cases order <;> cases x <;> rfl
  | some c =>
    cases y with
    | none => cases order <;> cases hyz
    | some b =>
      cases x with
      | none => cases order <;> cases hxy
      | some a =>
        cases order with
        | asc =>
          exact decide_eq_true (Double.trans (hx a rfl) (hy b rfl) (hz c rfl)
            (of_decide_eq_true hxy) (of_decide_eq_true hyz))
        | desc =>
          exact decide_eq_true (Double.trans (hz c rfl) (hy b rfl) (hx a rfl)
            (of_decide_eq_true hyz) (of_decide_eq_true hxy))

/-- What is tied with one cell is tied among itself. -/
theorem places_of_ties (order : SortOrder) (hx : Comparable x) (hy : Comparable y)
    (hz : Comparable z) (hxy : order.ties x y) (hxz : order.ties x z) : order.places y z := by
  unfold ties at hxy hxz
  rw [Bool.and_eq_true] at hxy hxz
  exact places_trans order hy hx hz hxy.2 hxz.1

end SortOrder

/-! ## Cells that can be ranked -/

namespace Json.Value

/-- Null, or a number that can be compared. -/
def Ranked (v : Value) : Prop :=
  v = null ∨ ∃ n, v = number n ∧ n.toFloat.isNaN = false

/-- The number of a ranked value is comparable. -/
theorem Ranked.comparable {v : Value} (h : v.Ranked) : SortOrder.Comparable v.asNumber? := by
  rcases h with rfl | ⟨n, rfl, hn⟩
  · intro y hy
    cases hy
  · intro y hy
    cases hy
    exact hn

/-- Every integer is ranked. -/
theorem ranked_int (i : Int) : (Value.int i).Ranked :=
  Or.inr ⟨.int i, rfl, Double.isNaN_ofInt i⟩

/-- The value of a double is ranked: where it is not finite, it is null. -/
theorem ranked_ofFloat (x : Float) : (ofFloat x).Ranked := by
  unfold ofFloat
  split
  · rename_i hfinite
    exact Or.inr ⟨.float x, rfl, Double.isNaN_of_isFinite hfinite⟩
  · exact Or.inl rfl

end Json.Value

namespace Accumulator

/-- What an accumulator makes of a double is ranked. -/
theorem ranked_scalar (acc : Accumulator) (x : Float) : (acc.scalar x).Ranked := by
  unfold scalar
  split
  · split
    · exact Value.ranked_int _
    · exact Value.ranked_ofFloat x
  · exact Value.ranked_ofFloat x

/-- Whatever a function makes of some values can be ranked. -/
theorem ranked_finish (acc : Accumulator) (function : Aggregation) :
    (acc.finish function).Ranked := by
  cases function with
  | count => exact Value.ranked_int _
  | sum => exact acc.ranked_scalar _
  | avg =>
    rw [finish]
    split
    · exact Or.inl rfl
    · exact Value.ranked_ofFloat _
  | min =>
    rw [finish]
    split
    · exact acc.ranked_scalar _
    · exact Or.inl rfl
  | max =>
    rw [finish]
    split
    · exact acc.ranked_scalar _
    · exact Or.inl rfl

end Accumulator

/-- A number comes first exactly where it is less. -/
theorem compareNumbers_eq_lt {x y : Float} : Value.compareNumbers x y = .lt ↔ x < y := by
  unfold Value.compareNumbers
  split
  · simpa
  · split <;> simpa

/-- A number comes last exactly where it is greater, unless one of them is NaN. -/
theorem compareNumbers_eq_gt {x y : Float} (hx : x.isNaN = false) (hy : y.isNaN = false) :
    Value.compareNumbers x y = .gt ↔ y < x := by
  unfold Value.compareNumbers
  split
  · rename_i hlt
    have hnot := Double.not_lt_of_lt hx hy hlt
    simpa
  · split <;> simpa

/-- A ranked cell is less than another one unless that one may stand before it. -/
theorem compareCells_eq_lt (order : SortOrder) {v w : Value} (hv : v.Ranked) (hw : w.Ranked) :
    compareCells order (((some v).filter (!·.isNull)).map Value.standing)
      (((some w).filter (!·.isNull)).map Value.standing) = .lt ↔
      ¬order.places w.asNumber? v.asNumber? := by
  rcases hv with rfl | ⟨m, rfl, hm⟩
  · have hlast : ∀ x, order.places x none := by
      intro x
      cases order <;> cases x <;> rfl
    refine iff_of_false ?_ (not_not.2 (hlast _))
    rcases hw with rfl | ⟨n, rfl, -⟩
    · exact fun h => nomatch h
    · exact fun h => nomatch h
  · rcases hw with rfl | ⟨n, rfl, hn⟩
    · refine iff_of_true rfl ?_
      cases order <;> exact Bool.false_ne_true
    · cases order with
      | asc =>
        refine compareNumbers_eq_lt.trans ((Double.lt_iff_not_le hm hn).trans (not_congr ?_))
        exact decide_eq_true_iff.symm
      | desc =>
        have hswap : ∀ o : Ordering, o.swap = .lt ↔ o = .gt := by decide
        refine (hswap _).trans ((compareNumbers_eq_gt hm hn).trans
          ((Double.lt_iff_not_le hn hm).trans (not_congr ?_)))
        exact decide_eq_true_iff.symm

/-! ## Sorted rows -/

/-- Some rows in the order of their cells under a key. -/
structure Row.IsSorting (key : String) (order : SortOrder) (rows sorted : List Row) : Prop where
  /-- Sorting leaves every row as often as it is there. -/
  perm : sorted.Perm rows
  /-- An earlier row may stand before a later one. -/
  ordered : sorted.Pairwise fun row other => order.places (row.number? key) (other.number? key)
  /-- The rows that are tied with one row keep their order. -/
  stable : ∀ row ∈ rows,
    sorted.filter (fun other => order.ties (row.number? key) (other.number? key)) =
      rows.filter fun other => order.ties (row.number? key) (other.number? key)

/-- A row with a ranked cell under a key. -/
def Row.IsRanked (key : String) (row : Row) : Prop :=
  ∃ v, row.get? key = some v ∧ v.Ranked

/-- The number of a ranked row is comparable. -/
theorem Row.IsRanked.comparable {key : String} {row : Row} (h : Row.IsRanked key row) :
    SortOrder.Comparable (row.number? key) := by
  obtain ⟨v, hv, hranked⟩ := h
  unfold number?
  rw [hv]
  exact hranked.comparable

/-- Under one clause the comparison is that of its cells. -/
theorem compareStandings_singleton (order : SortOrder) (a b : Option Value.Standing) :
    compareStandings [order] [a] [b] = compareCells order a b := by
  unfold compareStandings
  cases compareCells order a b <;> rfl

/-- Sorting by one key ranks rows by their cells under it. -/
theorem ranks_standings {key : String} (order : SortOrder) {rows : List Row}
    (h : ∀ row ∈ rows, Row.IsRanked key row) :
    StableSort.Ranks (fun a b => compareStandings [order] a.1 b.1 = .lt)
      (fun a b => order.places (a.2.number? key) (b.2.number? key))
      (rows.map fun row => (standings [⟨key, order⟩] row, row)) where
  total a ha b hb := by
    obtain ⟨row, hrow, rfl⟩ := List.mem_map.1 ha
    obtain ⟨other, hother, rfl⟩ := List.mem_map.1 hb
    exact SortOrder.places_total order (h row hrow).comparable (h other hother).comparable
  trans a ha b hb c hc hab hbc := by
    obtain ⟨row, hrow, rfl⟩ := List.mem_map.1 ha
    obtain ⟨other, hother, rfl⟩ := List.mem_map.1 hb
    obtain ⟨last, hlast, rfl⟩ := List.mem_map.1 hc
    exact SortOrder.places_trans order (h row hrow).comparable (h other hother).comparable
      (h last hlast).comparable hab hbc
  less_iff a ha b hb := by
    obtain ⟨row, hrow, rfl⟩ := List.mem_map.1 ha
    obtain ⟨other, hother, rfl⟩ := List.mem_map.1 hb
    obtain ⟨v, hv, hranked⟩ := h row hrow
    obtain ⟨w, hw, hranked'⟩ := h other hother
    have hcells := compareCells_eq_lt order hranked hranked'
    rw [decide_eq_true_iff]
    unfold Row.number? standings
    rw [List.map_singleton, List.map_singleton, compareStandings_singleton, hv, hw]
    exact hcells

/-- Rows that all have a ranked cell under a key can be sorted by it, and they come out in its
order: the clause takes part. -/
theorem exists_sorting {key : String} (order : SortOrder) {rows : List Row}
    (h : ∀ row ∈ rows, Row.IsRanked key row) :
    ∃ sorted, sortRows [⟨key, order⟩] rows = some sorted ∧ Row.IsSorting key order rows sorted := by
  cases rows with
  | nil => exact ⟨[], rfl, List.Perm.refl _, List.Pairwise.nil, fun _ hrow => nomatch hrow⟩
  | cons first rest =>
    have hactive : [(⟨key, order⟩ : SortClause)].filter (fun c => first.contains c.column) =
        [⟨key, order⟩] := by
      obtain ⟨v, hv, -⟩ := h first List.mem_cons_self
      have hkey := Ledger.mem_keys_iff.2 ⟨v, hv⟩
      exact List.filter_cons_of_pos (Ledger.contains_iff.2 hkey)
    have hranks := ranks_standings order h
    have hsorted : sortRows [⟨key, order⟩] (first :: rest) =
        some ((StableSort.byInsertion (fun a b => compareStandings [order] a.1 b.1 = .lt)
          ((first :: rest).map fun row => (standings [⟨key, order⟩] row, row))).map Prod.snd) := by
      simp only [sortRows, hactive]
      exact congrArg (Option.map (List.map Prod.snd)) (StableSort.sort_eq_byInsertion hranks)
    refine ⟨_, hsorted, sortRows_perm hsorted, ?_, fun row hrow => ?_⟩
    · rw [List.pairwise_map]
      exact StableSort.byInsertion_sorted hranks
    · have hrow := h row hrow
      have hkept := StableSort.byInsertion_filter hranks
        (p := fun a => order.ties (row.number? key) (a.2.number? key)) ?_
      · rw [List.filter_map]
        refine (congrArg (List.map Prod.snd) hkept).trans ?_
        rw [List.filter_map, List.map_map]
        exact List.map_id _
      · intro a ha b hb hta htb
        obtain ⟨other, hother, rfl⟩ := List.mem_map.1 ha
        obtain ⟨last, hlast, rfl⟩ := List.mem_map.1 hb
        exact SortOrder.places_of_ties order hrow.comparable (h other hother).comparable
          (h last hlast).comparable hta htb

end Chartboard
