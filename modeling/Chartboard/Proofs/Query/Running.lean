import Chartboard.Proofs.Query.Compilation
import Chartboard.Proofs.Query.Grouping
import Chartboard.Proofs.Query.RankedRows

/-!
# Requests that run

A request that asks a table only for what is there, and that has its rows sorted by an aggregate if
at all, has an answer. If it is no histogram, every row of the answer has a cell for every grouping
column and every aggregate, and the answer is empty only where no row of the table agrees with the
filters.
-/

namespace Chartboard

open Json (Value)
open Outcome

/-- The rows of a request are sorted by one of its aggregates, or they are not sorted. -/
def Request.SortsByAggregate (request : Request) : Prop :=
  request.sortBy = [] ∨ ∃ a ∈ request.aggregates, ∃ order, request.sortBy = [⟨a.key, order⟩]

/-- A chart has its rows sorted by its value if at all. -/
theorem Spec.requestSort_eq (s : Spec) (value : String) :
    s.requestSort value = [] ∨
      ∃ order, s.requestSort value = [⟨Aggregate.key ⟨value, s.aggregation⟩, order⟩] := by
  unfold requestSort
  split
  · exact Or.inl rfl
  · exact Or.inr ⟨_, rfl⟩
  · exact Or.inr ⟨_, rfl⟩
  · exact Or.inl rfl

/-- The requests of charts that are no histograms sort by an aggregate if at all. -/
theorem Spec.sortsByAggregate_of_compile {s : Spec} (hkind : s.kind ≠ .histogram)
    {limits : QueryLimits} {filters : FilterSet} {request : Request}
    (h : s.compile limits filters = .ok request) : request.SortsByAggregate := by
  obtain ⟨value, groupBy, aggregates, -, -, haggregates, rfl⟩ := (compile_groups hkind).1 h
  have hmem : ⟨value, s.aggregation⟩ ∈ aggregates := by
    rcases requestAggregates_eq_ok.1 haggregates with ⟨-, rfl⟩ | ⟨-, second, -, rfl⟩
    · exact List.mem_singleton_self _
    · exact List.mem_cons_self
  rcases s.requestSort_eq value with hnone | ⟨order, hsome⟩
  · exact Or.inl hnone
  · exact Or.inr ⟨_, hmem, order, hsome⟩

namespace Table

/-- With known filter columns, the result comes from the selected rows. -/
theorem result_of_known {t : Table} {request : Request}
    (h : ∀ f ∈ request.filters, f.column ∈ t.names) :
    t.result request =
      if request.isHistogram then t.histogram request (t.selection request.filters)
      else if !request.groupBy.isEmpty then t.grouped request (t.selection request.filters)
      else if !request.aggregates.isEmpty then t.overall request (t.selection request.filters)
      else .ok (t.plain (t.selection request.filters)) := by
  obtain ⟨pairs, hpairs⟩ := filterColumns_total h
  unfold result
  rw [hpairs]
  show (if request.isHistogram then
      t.histogram request (t.records.filter (passes pairs)) else _) = _
  rw [filterColumns_eq_ok hpairs]
  rfl

/-- Names of the table are all found. -/
theorem columns_total {t : Table} {names : List String} (h : ∀ name ∈ names, name ∈ t.names) :
    ∃ refs, names.mapM t.column = .ok refs :=
  mapM_total fun name hname => column_total (h name hname)

/-- Aggregates of columns of the table are all found. -/
theorem measures_total {t : Table} {request : Request}
    (h : ∀ a ∈ request.aggregates, a.column ∈ t.names) :
    ∃ measures, t.measures request = .ok measures := by
  apply mapM_total
  intro a ha
  obtain ⟨ref, href⟩ := column_total (h a ha)
  exact ⟨(ref, a), bind_eq_ok.2 ⟨ref, href, rfl⟩⟩

/-- The measures have the keys of the aggregates. -/
theorem measures_keys {t : Table} {request : Request} {measures : List (ColumnRef × Aggregate)}
    (h : t.measures request = .ok measures) :
    measures.map (·.2.key) = request.aggregates.map Aggregate.key := by
  rw [← measures_eq_ok h, List.map_map]
  rfl

/-- Every row has exactly the cells that a request asks for. -/
def Complete (request : Request) (rows : List Row) : Prop :=
  ∀ row ∈ rows, ∀ k,
    k ∈ row.keys ↔ k ∈ request.groupBy ∨ k ∈ request.aggregates.map Aggregate.key

/-- Grouped rows have all their cells, and there are none only where nothing is selected. -/
theorem grouped_complete {t : Table} {request : Request} {selected : List Record}
    {result : ResultSet} (h : t.grouped request selected = .ok result) :
    (result.rows = [] ↔ selected = []) ∧ Complete request result.rows := by
  obtain ⟨keyRefs, measures, hkeys, hmeasures, rfl⟩ := grouped_eq_ok.1 h
  refine ⟨?_, ?_⟩
  · rw [List.map_eq_nil_iff]
    exact groups_entries_eq_nil_iff
  · intro row hrow k
    obtain ⟨⟨text, g⟩, hg, rfl⟩ := List.mem_map.1 hrow
    obtain ⟨first, others, -, rfl⟩ := group_of_mem hg
    rw [mem_keys_row (mapM_length hkeys), measures_keys hmeasures]

/-- The single row of aggregates has all its cells, and is missing only where nothing is
selected. -/
theorem overall_complete {t : Table} {request : Request} {selected : List Record}
    {result : ResultSet} (hgroup : request.groupBy = [])
    (h : t.overall request selected = .ok result) :
    (result.rows = [] ↔ selected = []) ∧ Complete request result.rows := by
  obtain ⟨measures, hmeasures, hpure⟩ := bind_eq_ok.1 h
  rw [pure_eq_ok] at hpure
  subst hpure
  refine ⟨?_, ?_⟩
  · cases selected with
    | nil => simp
    | cons record rest => simp
  · intro row hrow k
    have hcells : row = Ledger.ofList (measures.map fun m =>
        (m.2.key, (Accumulator.ofValues (selected.map m.1.read)).finish m.2.function)) := by
      cases selected with
      | nil => cases hrow
      | cons record rest => exact List.mem_singleton.1 hrow
    rw [hcells, Ledger.mem_keys_ofList, List.map_map, hgroup, ← measures_keys hmeasures]
    simp [Function.comp_def]

/-- What aggregates write over other cells of a row ranks the row. -/
theorem isRanked_ofList {writes later : List (String × Value)} (h : ∀ w ∈ later, w.2.Ranked)
    {key : String} (hkey : key ∈ later.map Prod.fst) :
    Row.IsRanked key (Ledger.ofList (writes ++ later)) := by
  obtain ⟨v, hv, hmem⟩ := Ledger.exists_of_mem_writes hkey
  exact ⟨v, by rw [Ledger.get?_ofList_append, hv, Option.some_or], h _ hmem⟩

/-- The cells of aggregates, each under its key. -/
theorem isRanked_measured {request : Request} {measures : List (ColumnRef × Aggregate)}
    (hmeasures : measures.map (·.2) = request.aggregates) (writes : List (String × Value))
    (records : List Record) {a : Aggregate} (ha : a ∈ request.aggregates) :
    Row.IsRanked a.key (Ledger.ofList (writes ++ measures.map fun m =>
      (m.2.key, (Accumulator.ofValues (records.map m.1.read)).finish m.2.function))) := by
  refine isRanked_ofList (fun w hw => ?_) ?_
  · obtain ⟨m, -, rfl⟩ := List.mem_map.1 hw
    exact Accumulator.ranked_finish _ _
  · rw [← hmeasures] at ha
    obtain ⟨m, hm, rfl⟩ := List.mem_map.1 ha
    rw [List.map_map]
    exact List.mem_map_of_mem hm

/-- Aggregates rank the rows of groups. -/
theorem isRanked_grouped {t : Table} {request : Request} {selected : List Record}
    {result : ResultSet} (h : t.grouped request selected = .ok result) {a : Aggregate}
    (ha : a ∈ request.aggregates) : ∀ row ∈ result.rows, Row.IsRanked a.key row := by
  obtain ⟨keyRefs, measures, -, hmeasures, rfl⟩ := grouped_eq_ok.1 h
  intro row hrow
  obtain ⟨⟨text, g⟩, hg, rfl⟩ := List.mem_map.1 hrow
  obtain ⟨first, others, -, rfl⟩ := group_of_mem hg
  show Row.IsRanked a.key ((Group.ofRecords keyRefs measures first others).row request.groupBy _)
  rw [row_ofRecords]
  exact isRanked_measured (measures_eq_ok hmeasures) _ (first :: others) ha

/-- Aggregates rank the one row of all records. -/
theorem isRanked_overall {t : Table} {request : Request} {selected : List Record}
    {result : ResultSet} (h : t.overall request selected = .ok result) {a : Aggregate}
    (ha : a ∈ request.aggregates) : ∀ row ∈ result.rows, Row.IsRanked a.key row := by
  obtain ⟨measures, hmeasures, hpure⟩ := bind_eq_ok.1 h
  rw [pure_eq_ok] at hpure
  subst hpure
  intro row hrow
  cases selected with
  | nil => cases hrow
  | cons record rest =>
    rw [List.mem_singleton.1 hrow]
    exact isRanked_measured (measures_eq_ok hmeasures) [] (record :: rest) ha

/-- Aggregates rank the rows of every result that is no histogram. -/
theorem isRanked_result {t : Table} {request : Request} (hhistogram : request.isHistogram = false)
    {result : ResultSet} (h : t.result request = .ok result) {a : Aggregate}
    (ha : a ∈ request.aggregates) : ∀ row ∈ result.rows, Row.IsRanked a.key row := by
  obtain ⟨pairs, hpairs, -⟩ := bind_eq_ok.1 h
  rw [result_of_known fun f hf => mem_names_of_filterColumns hpairs hf,
    if_neg (by rw [hhistogram]; decide)] at h
  by_cases hgroup : request.groupBy = []
  · rw [if_neg (by simp [hgroup]), if_pos (by simp [List.ne_nil_of_mem ha])] at h
    exact isRanked_overall h ha
  · rw [if_pos (by simp [hgroup])] at h
    exact isRanked_grouped h ha

/-- A result that is sorted by an aggregate if at all becomes an answer. -/
theorem answer_of_sortsByAggregate {t : Table} {request : Request}
    (hhistogram : request.isHistogram = false) (hsort : request.SortsByAggregate)
    {result : ResultSet} (h : t.result request = .ok result) :
    ∃ response, answer request result = .ok response := by
  rcases hsort with hsort | ⟨a, ha, order, hsort⟩
  · exact ⟨_, answer_of_unsorted hsort result⟩
  · obtain ⟨sorted, hsorted, -⟩ := exists_sorting order (isRanked_result hhistogram h ha)
    exact ⟨_, answer_eq_ok.2 ⟨sorted, by rw [hsort, hsorted], rfl⟩⟩

/-- A request for groups whose columns are known answers with a row for each group. -/
theorem run_grouped {t : Table} {request : Request} (hgroup : request.groupBy ≠ [])
    (hhistogram : request.isHistogram = false)
    (hfilters : ∀ f ∈ request.filters, f.column ∈ t.names)
    {keyRefs : List ColumnRef} {measures : List (ColumnRef × Aggregate)}
    (hkeys : request.groupBy.mapM t.column = .ok keyRefs)
    (hmeasures : t.measures request = .ok measures) :
    t.run request = answer request ⟨request.groupBy ++ measures.map (·.2.key),
      (groups keyRefs measures (t.selection request.filters)).entries.map fun (_, g) =>
        g.row request.groupBy measures⟩ := by
  rw [run_eq, result_of_known hfilters, if_neg (by rw [hhistogram]; decide),
    if_pos (by simp [hgroup]), grouped_eq_ok.2 ⟨keyRefs, measures, hkeys, hmeasures, rfl⟩]
  rfl

/-- A request for groups that runs has known columns and answers with a row for each group. -/
theorem run_grouped_eq_ok {t : Table} {request : Request} (hgroup : request.groupBy ≠ [])
    (hhistogram : request.isHistogram = false) {response : Response} :
    t.run request = .ok response ↔
      ∃ keyRefs measures, (∀ f ∈ request.filters, f.column ∈ t.names) ∧
        request.groupBy.mapM t.column = .ok keyRefs ∧ t.measures request = .ok measures ∧
        answer request ⟨request.groupBy ++ measures.map (·.2.key),
          (groups keyRefs measures (t.selection request.filters)).entries.map fun (_, g) =>
            g.row request.groupBy measures⟩ = .ok response := by
  constructor
  · intro hrun
    obtain ⟨result, hok, -⟩ := run_eq_ok.1 hrun
    have hfilters : ∀ f ∈ request.filters, f.column ∈ t.names := by
      obtain ⟨pairs, hpairs, _⟩ := bind_eq_ok.1 hok
      intro f hf
      exact mem_names_of_filterColumns hpairs hf
    rw [result_of_known hfilters, if_neg (by rw [hhistogram]; decide),
      if_pos (by simp [hgroup])] at hok
    obtain ⟨keyRefs, measures, hkeys, hmeasures, -⟩ := grouped_eq_ok.1 hok
    refine ⟨keyRefs, measures, hfilters, hkeys, hmeasures, ?_⟩
    rw [← run_grouped hgroup hhistogram hfilters hkeys hmeasures, hrun]
  · rintro ⟨keyRefs, measures, hfilters, hkeys, hmeasures, hanswer⟩
    rw [run_grouped hgroup hhistogram hfilters hkeys hmeasures, hanswer]

/-- A request that is no histogram has a result if the columns that it names are there. -/
theorem result_total {t : Table} {request : Request} (hhistogram : request.isHistogram = false)
    (hfilters : ∀ f ∈ request.filters, f.column ∈ t.names)
    (hnames : ∀ name ∈ request.groupBy, name ∈ t.names)
    (haggregates : ∀ a ∈ request.aggregates, a.column ∈ t.names) :
    ∃ result, t.result request = .ok result := by
  obtain ⟨keyRefs, hkeys⟩ := columns_total hnames
  obtain ⟨measures, hmeasures⟩ := measures_total haggregates
  rw [result_of_known hfilters, if_neg (by rw [hhistogram]; decide)]
  split
  · exact ⟨_, grouped_eq_ok.2 ⟨keyRefs, measures, hkeys, hmeasures, rfl⟩⟩
  · split
    · exact ⟨_, bind_eq_ok.2 ⟨measures, hmeasures, rfl⟩⟩
    · exact ⟨_, rfl⟩

/-- A request for groups that sorts by an aggregate if at all runs, and its rows have the cells that
it asks for. -/
theorem run_groups {t : Table} {request : Request} (hfits : request.Fits t)
    (hhistogram : request.isHistogram = false) (haggregates : request.aggregates ≠ [])
    (hsort : request.SortsByAggregate) :
    ∃ response, t.run request = .ok response ∧
      (response.rows = [] ↔ t.selection request.filters = []) ∧
      Complete request response.rows := by
  obtain ⟨result, hresult⟩ := result_total hhistogram hfits.filters_known hfits.groupBy_known
    hfits.aggregates_known
  obtain ⟨response, hanswer⟩ := answer_of_sortsByAggregate hhistogram hsort hresult
  have hrun := run_eq_ok.2 ⟨result, hresult, hanswer⟩
  have hrows : (result.rows = [] ↔ t.selection request.filters = []) ∧
      Complete request result.rows := by
    rw [result_of_known hfits.filters_known, if_neg (by rw [hhistogram]; decide)] at hresult
    by_cases hgroup : request.groupBy = []
    · rw [if_neg (by simp [hgroup]), if_pos (by simp [haggregates])] at hresult
      exact overall_complete hgroup hresult
    · rw [if_pos (by simp [hgroup])] at hresult
      exact grouped_complete hresult
  obtain ⟨hempty, hcomplete⟩ := hrows
  refine ⟨response, hrun, ?_, fun row hrow => ?_⟩
  · rw [answer_rows_eq_nil_iff hanswer, hempty]
  · exact hcomplete row (mem_result_of_mem_answer hanswer hrow)

end Table

end Chartboard
