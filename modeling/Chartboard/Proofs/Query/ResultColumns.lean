import Chartboard.Proofs.Chart.Labels

/-!
# Columns of results

An answer has a column for every grouping column and one for the key of every aggregate. The keys
of different aggregates are different, so each aggregate is found under its own key, and what one
chart asks for in two aggregates is never mixed up.
-/

namespace Chartboard

open Outcome

namespace Table

variable {t : Table} {request : Request} {response : Response} {row : Row}

/-- A row holds what the aggregates of a request make of some selected rows, each under its key. -/
structure Summarizes (t : Table) (request : Request) (row : Row) (members : List Record) :
    Prop where
  /-- The rows are selected ones, in their order. -/
  selected : members.Sublist (t.selection request.filters)
  /-- There is a row. -/
  inhabited : members ≠ []
  /-- Every aggregate is found under its key. -/
  cell : ∀ a ∈ request.aggregates, row.get? a.key = some (t.aggregated a members)

/-- The row of some selected rows holds their aggregates. No aggregate is written over another one,
since the keys of different aggregates are different. -/
theorem summarizes_groupRow {first : Record} {others : List Record}
    (h : (first :: others).Sublist (t.selection request.filters)) :
    t.Summarizes request (t.groupRow request first others) (first :: others) where
  selected := h
  inhabited := List.cons_ne_nil _ _
  cell _ ha := get?_groupRow_aggregate ha (fun _ _ heq => Aggregate.key_injective heq) first others

/-- A request for groups has a column for every grouping column and every aggregate, and its rows
hold the aggregates of its groups. -/
theorem summarizes_grouped (hgroup : request.groupBy ≠ [])
    (hhistogram : request.isHistogram = false) (hrun : t.run request = .ok response) :
    response.columns = request.groupBy ++ request.aggregates.map Aggregate.key ∧
      ∀ row ∈ response.rows, ∃ members, t.Summarizes request row members := by
  refine ⟨?_, fun row hrow => ?_⟩
  · obtain ⟨keyRefs, measures, -, -, hmeasures, hanswer⟩ :=
      (run_grouped_eq_ok hgroup hhistogram).1 hrun
    obtain ⟨-, -, rfl⟩ := answer_eq_ok.1 hanswer
    exact congrArg (request.groupBy ++ ·) (measures_keys hmeasures)
  · obtain ⟨keyRefs, first, others, -, hmembers, rfl⟩ :=
      exists_group_of_mem_rows hgroup hhistogram hrun hrow
    refine ⟨first :: others, summarizes_groupRow ?_⟩
    rw [← hmembers]
    exact List.filter_sublist

/-- The row of all selected rows together is that of one group without keys. -/
theorem row_overall {measures : List (ColumnRef × Aggregate)} (hgroup : request.groupBy = [])
    (hmeasures : t.measures request = .ok measures) (first : Record) (others : List Record) :
    Ledger.ofList (measures.map fun (ref, a) =>
      (a.key, (Accumulator.ofValues ((first :: others).map ref.read)).finish a.function)) =
      t.groupRow request first others := by
  rw [cells_measures hmeasures, groupRow, hgroup]
  rfl

/-- A request without groups has a column for every aggregate, and its row holds the aggregates of
all selected rows. -/
theorem summarizes_overall {result : ResultSet} (hgroup : request.groupBy = [])
    (h : t.overall request (t.selection request.filters) = .ok result) :
    result.columns = request.aggregates.map Aggregate.key ∧
      ∀ row ∈ result.rows, ∃ members, t.Summarizes request row members := by
  obtain ⟨measures, hmeasures, hpure⟩ := bind_eq_ok.1 h
  rw [pure_eq_ok] at hpure
  subst hpure
  refine ⟨measures_keys hmeasures, fun row hrow => ?_⟩
  cases hselected : t.selection request.filters with
  | nil =>
    rw [hselected] at hrow
    cases hrow
  | cons first others =>
    rw [hselected] at hrow
    have hone := List.mem_singleton.1 hrow
    rw [row_overall hgroup hmeasures] at hone
    subst hone
    exact ⟨first :: others, summarizes_groupRow (by rw [hselected])⟩

/-- An answer with aggregates has a column for the key of each of them, and every row holds the
aggregates of some selected rows. -/
theorem summarizes_of_run (hhistogram : request.isHistogram = false)
    (hsome : request.groupBy ≠ [] ∨ request.aggregates ≠ [])
    (hrun : t.run request = .ok response) :
    response.columns = request.groupBy ++ request.aggregates.map Aggregate.key ∧
      ∀ row ∈ response.rows, ∃ members, t.Summarizes request row members := by
  by_cases hgroup : request.groupBy = []
  · -- The aggregates alone make a single row, unless there is nothing to aggregate.
    have haggregates : request.aggregates ≠ [] := hsome.resolve_left (not_not_intro hgroup)
    obtain ⟨result, hresult, hanswer⟩ := run_eq_ok.1 hrun
    obtain ⟨pairs, hpairs, -⟩ := bind_eq_ok.1 hresult
    rw [result_of_known fun f hf => mem_names_of_filterColumns hpairs hf,
      if_neg (by rw [hhistogram]; decide), if_neg (by simp [hgroup]),
      if_pos (by simp [haggregates])] at hresult
    obtain ⟨hcolumns, hrows⟩ := summarizes_overall hgroup hresult
    refine ⟨?_, fun row hrow => hrows row (mem_result_of_mem_answer hanswer hrow)⟩
    obtain ⟨-, -, rfl⟩ := answer_eq_ok.1 hanswer
    rw [hgroup]
    exact hcolumns
  · exact summarizes_grouped hgroup hhistogram hrun

/-! ## Bins -/

/-- The rows of a histogram hold their frequencies under the key of counting its column. -/
theorem count_of_run (hhistogram : request.isHistogram = true)
    (hrun : t.run request = .ok response) :
    ∃ column, request.aggregates.head?.map Aggregate.column = some column ∧
      response.columns = [column, binStartKey, binEndKey, Aggregate.key ⟨column, .count⟩] ∧
      ∀ row ∈ response.rows, ∃ n : Nat, row.get? (Aggregate.key ⟨column, .count⟩) =
        some (.int n) := by
  obtain ⟨result, hresult, hanswer⟩ := run_eq_ok.1 hrun
  obtain ⟨a, rest, ref, haggregates, -, -, rfl⟩ := eq_histogramResult hhistogram hresult
  have hcolumns : response.columns =
      [a.column, binStartKey, binEndKey, Aggregate.key ⟨a.column, .count⟩] := by
    obtain ⟨-, -, rfl⟩ := answer_eq_ok.1 hanswer
    rfl
  refine ⟨a.column, by rw [haggregates]; rfl, hcolumns, fun row hrow => ?_⟩
  obtain ⟨i, hi, rfl⟩ := List.getElem_of_mem (mem_result_of_mem_answer hanswer hrow)
  obtain ⟨-, n, hn⟩ := getElem_binRows hi
  refine ⟨n, ?_⟩
  show Ledger.get? (binRows _ _ _ _)[i] (histogramCountKey a.column) = _
  rw [hn]
  exact Binning.get?_row_count _ a.column i n

end Table

/-! ## Two axes -/

/-- The request of a chart with two axes has two aggregates, under whose keys the chart looks for
its values. The keys are the same only if both axes show one column. -/
theorem Spec.axes_of_compile {s : Spec} {limits : QueryLimits} {filters : FilterSet}
    {request : Request} (hkind : s.kind = .dualAxis)
    (h : s.compile limits filters = .ok request) :
    ∃ left right, request.aggregates = [left, right] ∧ s.valueKey = some left.key ∧
      s.secondaryKey = some right.key ∧ s.valueColumn = some left.column ∧
      s.secondaryValueColumn = some right.column ∧
      (left.key = right.key ↔ left.column = right.column) := by
  obtain ⟨value, groupBy, aggregates, hvalue, -, haggregates, rfl⟩ :=
    (compile_groups (by rw [hkind]; decide)).1 h
  obtain ⟨hcolumn, -⟩ := presentColumn_eq_ok.1 hvalue
  obtain ⟨hother, -⟩ | ⟨-, secondary, hsecondary, rfl⟩ := requestAggregates_eq_ok.1 haggregates
  · exact absurd hkind hother
  · obtain ⟨hright, -⟩ := presentColumn_eq_ok.1 hsecondary
    refine ⟨⟨value, s.aggregation⟩, ⟨secondary, s.aggregation⟩, rfl,
      valueKey_of_valueColumn hcolumn, ?_, hcolumn, hright, ?_⟩
    · rw [secondaryKey_of_dualAxis hkind, hright]
      rfl
    · rw [Aggregate.key_injective.eq_iff, Aggregate.mk.injEq]
      exact and_iff_left rfl

/-! ## Columns of aggregates -/

/-- Two keys are the same only if they are keys of the same function of the same column, whatever
the columns are called. So different aggregates of a request have different columns in the answer,
and every row holds each of them under its own key, taken from the same rows. The two axes of a
chart share a column only if they show the same one. The frequencies of bins stand under the key of
counting the column. -/
theorem aggregate_columns_apart :
    (∀ c c' f f', Aggregate.key ⟨c, f⟩ = Aggregate.key ⟨c', f'⟩ ↔ c = c' ∧ f = f') ∧
    (∀ request : Request, ∀ a ∈ request.aggregates, ∀ b ∈ request.aggregates, a ≠ b →
      a.key ≠ b.key) ∧
    (∀ (t : Table) (request : Request) (response : Response), request.isHistogram = false →
      (request.groupBy ≠ [] ∨ request.aggregates ≠ []) → t.run request = .ok response →
        response.columns = request.groupBy ++ request.aggregates.map Aggregate.key ∧
        ∀ row ∈ response.rows, ∃ members, t.Summarizes request row members) ∧
    (∀ (s : Spec) (limits : QueryLimits) (filters : FilterSet) (request : Request),
      s.kind = .dualAxis → s.compile limits filters = .ok request →
        ∃ left right, request.aggregates = [left, right] ∧ s.valueKey = some left.key ∧
          s.secondaryKey = some right.key ∧ s.valueColumn = some left.column ∧
          s.secondaryValueColumn = some right.column ∧
          (left.key = right.key ↔ left.column = right.column)) ∧
    (∀ c, histogramCountKey c = Aggregate.key ⟨c, .count⟩) ∧
    ∀ (t : Table) (request : Request) (response : Response), request.isHistogram = true →
      t.run request = .ok response →
        ∃ column, request.aggregates.head?.map Aggregate.column = some column ∧
          response.columns = [column, binStartKey, binEndKey, Aggregate.key ⟨column, .count⟩] ∧
          ∀ row ∈ response.rows, ∃ n : Nat, row.get? (Aggregate.key ⟨column, .count⟩) =
            some (.int n) := by
  refine ⟨fun c c' f f' => ?_, fun _ a _ b _ hne heq => hne (Aggregate.key_injective heq),
    fun t request response hhistogram hsome hrun => Table.summarizes_of_run hhistogram hsome hrun,
    fun s limits filters request hkind h => Spec.axes_of_compile hkind h, fun _ => rfl,
    fun t request response hhistogram hrun => Table.count_of_run hhistogram hrun⟩
  rw [Aggregate.key_injective.eq_iff, Aggregate.mk.injEq]

/-- Loads, with a column that is called like their sum. -/
def loadTable : Table where
  columns := [⟨"site", .text⟩, ⟨"load", .int 64⟩, ⟨"load_sum", .int 64⟩]
  records :=
    [[.text "North", .int 1, .int 7],
     [.text "South", .int 2, .int 7],
     [.text "North", .int 4, .int 9]]

/-- The largest load and the largest of the other column on two axes. -/
def loadAxes : Spec where
  kind := .dualAxis
  groupBy := some "site"
  valueColumn := some "load"
  secondaryValueColumn := some "load_sum"
  aggregation := .max

/-- The request of the two axes. -/
def loadRequest : Request where
  groupBy := ["site"]
  aggregates := [⟨"load", .max⟩, ⟨"load_sum", .max⟩]
  limit := 1000

/-- The loads in two bins. -/
def loadBins : Request where
  aggregates := [⟨"load", .sum⟩]
  isHistogram := true
  bins := some 2

/-- The two axes of the loads have columns of their own, and so has the count of their bins. -/
theorem aggregate_columns_apart_loads :
    (∃ left right, loadRequest.aggregates = [left, right] ∧ loadAxes.valueKey = some left.key ∧
      loadAxes.secondaryKey = some right.key ∧ left.key ≠ right.key) ∧
    (∃ response, loadTable.run loadRequest = .ok response ∧
      response.columns = ["site", "load_max", "load_sum_max"] ∧ response.rows.length = 2 ∧
      ∀ row ∈ response.rows, ∃ members, loadTable.Summarizes loadRequest row members) ∧
    ∃ response, loadTable.run loadBins = .ok response ∧
      response.columns = ["load", "bin_start", "bin_end", "load_count"] ∧
      ∀ row ∈ response.rows, ∃ n : Nat, row.get? "load_count" = some (.int n) := by
  obtain ⟨-, -, hrows, haxes, -, hbins⟩ := aggregate_columns_apart
  refine ⟨?_, ⟨_, Table.run_of_unsorted rfl rfl, ?_⟩, ⟨_, Table.run_of_unsorted rfl rfl, ?_⟩⟩
  · obtain ⟨left, right, haggregates, hleft, hright, hcolumn, hsecond, hsame⟩ :=
      haxes loadAxes {} ∅ loadRequest rfl rfl
    refine ⟨left, right, haggregates, hleft, hright, fun heq => ?_⟩
    cases haggregates
    exact absurd (hsame.1 heq) (by decide)
  · obtain ⟨hcolumns, hsummary⟩ :=
      hrows loadTable loadRequest _ rfl (.inl (List.cons_ne_nil _ _))
        (Table.run_of_unsorted rfl rfl)
    exact ⟨hcolumns, rfl, hsummary⟩
  · obtain ⟨column, hcolumn, hcolumns, hcounts⟩ := hbins loadTable loadBins _ rfl
      (Table.run_of_unsorted rfl rfl)
    cases hcolumn
    exact ⟨hcolumns, hcounts⟩

end Chartboard
