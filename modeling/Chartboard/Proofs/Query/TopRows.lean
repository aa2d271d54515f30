import Chartboard.Proofs.Query.FirstSeen

/-!
# Top rows

A chart that asks for a sort gets the rows of its groups in the order of their values, with null at
the end whatever the direction is, and with tied rows in the order in which their groups first came.
A limit keeps the first rows of that order.
-/

namespace Chartboard

open Json (Value)
open Outcome

namespace Table

/-- The group rows have a ranked cell for every aggregate of a request with one function. -/
theorem isRanked_of_mem_groupRows {t : Table} {request : Request} {a : Aggregate}
    (ha : a ∈ request.aggregates) (hfunction : ∀ b ∈ request.aggregates, b.function = a.function)
    {row : Row} (hrow : row ∈ t.groupRows request) : Row.IsRanked a.key row := by
  obtain ⟨first, others, rfl⟩ := exists_groupRow_of_mem hrow
  refine ⟨t.aggregated a (first :: others), ?_, Accumulator.ranked_finish _ _⟩
  exact get?_groupRow_aggregate ha (fun b hb heq => Aggregate.key_inj heq (hfunction b hb))
    first others

end Table

/-! ## Sorted charts -/

namespace Spec

/-- The direction in which a chart has its rows sorted. A funnel goes down if nothing is said. -/
def direction? (s : Spec) : Option SortOrder :=
  match s.sort with
  | some sorting => some sorting.order
  | none => if s.kind = .funnel then some .desc else none

/-- A kind with a direction sorts by its own aggregate, in that direction. -/
theorem requestSort_of_direction {s : Spec} (hkpi : s.kind ≠ .kpi) {order : SortOrder}
    (h : s.direction? = some order) (value : String) :
    s.requestSort value = [⟨Aggregate.key ⟨value, s.aggregation⟩, order⟩] := by
  unfold direction? at h
  unfold requestSort
  cases hsort : s.sort with
  | some sorting =>
    simp only [hsort, Option.some.injEq] at h
    subst h
    cases hkind : s.kind with
    | kpi => exact absurd hkind hkpi
    | _ => rfl
  | none =>
    simp only [hsort, Option.ite_none_right_eq_some, Option.some.injEq] at h
    obtain ⟨hfunnel, rfl⟩ := h
    rw [hfunnel]
    rfl

/-- The answer to the request of a sorted chart is cut from the group rows in the order of their
values, which every group row has. -/
theorem rows_sorted_and_cut {s : Spec} {t : Table} (ht : t.isWellTyped) (hkpi : s.kind ≠ .kpi)
    (hhistogram : s.kind ≠ .histogram) {order : SortOrder} (horder : s.direction? = some order)
    {limits : QueryLimits} {filters : FilterSet} {request : Request} {response : Response}
    (hcompile : s.compile limits filters = .ok request) (hrun : t.run request = .ok response) :
    ∃ value sorted, s.valueColumn = some value ∧ request.filters = filters.toFilters ∧
      request.sortBy = [⟨Aggregate.key ⟨value, s.aggregation⟩, order⟩] ∧
      (∀ row ∈ t.groupRows request, Row.IsRanked (Aggregate.key ⟨value, s.aggregation⟩) row) ∧
      Row.IsSorting (Aggregate.key ⟨value, s.aggregation⟩) order (t.groupRows request) sorted ∧
      response.totalRows = some sorted.length ∧
      response.rows = if limits.rows = 0 then sorted else sorted.take limits.rows := by
  obtain ⟨value, groupBy, aggregates, hvalue, -, haggregates, hrequest⟩ :=
    (compile_groups hhistogram).1 hcompile
  have hmem : ⟨value, s.aggregation⟩ ∈ request.aggregates ∧
      ∀ b ∈ request.aggregates, b.function = s.aggregation := by
    rw [← hrequest]
    rcases requestAggregates_eq_ok.1 haggregates with ⟨-, rfl⟩ | ⟨-, second, -, rfl⟩
    · simp [groupRequest]
    · simp [groupRequest]
  have hsort : request.sortBy = [⟨Aggregate.key ⟨value, s.aggregation⟩, order⟩] := by
    rw [← requestSort_of_direction hkpi horder, ← hrequest]
    rfl
  have hlimit : request.limit = limits.rows := by
    rw [← hrequest]
    exact if_neg hkpi
  obtain ⟨result, hresult, hanswer⟩ := Table.run_eq_ok.1 hrun
  obtain ⟨rows, hsorted', rfl⟩ := Table.answer_eq_ok.1 hanswer
  have hrows : result.rows = t.groupRows request :=
    Table.rows_result ht (by rw [← hrequest]; rfl) (List.ne_nil_of_mem hmem.1) hresult
  have hranked : ∀ row ∈ t.groupRows request,
      Row.IsRanked (Aggregate.key ⟨value, s.aggregation⟩) row :=
    fun row hrow => Table.isRanked_of_mem_groupRows hmem.1 hmem.2 hrow
  obtain ⟨sorted, hsorted, hsorting⟩ := exists_sorting order hranked
  rw [← hsort, ← hrows, hsorted', Option.some.injEq] at hsorted
  subst hsorted
  refine ⟨value, rows, (presentColumn_eq_ok.1 hvalue).1, by rw [← hrequest]; rfl, hsort, hranked,
    hsorting, ?_, ?_⟩
  · rw [hsorting.perm.length_eq, ← hrows]
  · rw [← hlimit]
    rfl

/-- Sales of which one has no amount. -/
def amountsTable : Table where
  columns := [⟨"region", .text⟩, ⟨"amount", .int 64⟩]
  records := [[.text "North", .null], [.text "East", .int 2], [.text "West", .int 2],
    [.text "South", .int 5]]

/-- A bar for the greatest sale of each region, from the tallest bar down. -/
def greatestBar : Spec where
  kind := .bar
  groupBy := some "region"
  valueColumn := some "amount"
  aggregation := .max
  sort := some { order := .desc }

/-- The request of the three tallest bars. -/
def greatestRequest : Request where
  groupBy := ["region"]
  aggregates := [⟨"amount", .max⟩]
  sortBy := [⟨"amount_max", .desc⟩]
  limit := 3

/-- The three tallest bars: of two regions with the same amount the one that came first is first,
and the region without amounts is cut. -/
def greatestResponse : Response where
  rows := [.ofList [("region", .string "South"), ("amount_max", .int 5)],
    .ofList [("region", .string "East"), ("amount_max", .int 2)],
    .ofList [("region", .string "West"), ("amount_max", .int 2)]]
  totalRows := some 4
  columns := ["region", "amount_max"]

/-- The three greatest amounts, in descending order. -/
theorem rows_sorted_and_cut_greatestBar :
    amountsTable.isWellTyped ∧ greatestBar.kind ≠ .kpi ∧ greatestBar.kind ≠ .histogram ∧
      greatestBar.direction? = some .desc ∧
      greatestBar.compile { rows := 3 } ∅ = .ok greatestRequest ∧
      amountsTable.run greatestRequest = .ok greatestResponse ∧
      ∃ sorted, Row.IsSorting "amount_max" .desc (amountsTable.groupRows greatestRequest) sorted ∧
        sorted.length = 4 ∧ greatestResponse.rows = sorted.take 3 := by
  have ht : amountsTable.isWellTyped := by decide +kernel
  have hdown : greatestBar.direction? = some .desc := rfl
  have hcompile : greatestBar.compile { rows := 3 } ∅ = .ok greatestRequest := rfl
  have hrun : amountsTable.run greatestRequest = .ok greatestResponse := rfl
  obtain ⟨value, sorted, hvalue, -, -, -, hsorting, htotal, hrows⟩ :=
    rows_sorted_and_cut ht (by decide) (by decide) hdown hcompile hrun
  cases hvalue
  exact ⟨ht, by decide, by decide, hdown, hcompile, hrun, sorted, hsorting,
    (Option.some.inj htotal).symm, hrows⟩

end Spec

end Chartboard
