import Chartboard.Proofs.Chart.Drawable
import Chartboard.Proofs.Query.KeyedRows
import Chartboard.Proofs.Render.Gridding
import Chartboard.Proofs.Render.RowMarks

/-!
# Labels of groups

Pies, funnels, charts with two axes and grids without series label their groups by the cells under
the grouping column. Such a cell is the value that all rows of the group share, and the cells under
the keys of the aggregates are those of the group, as long as no aggregate has the grouping column
for its key. Nothing keeps a table from having a column of such a name. The aggregate is then shown
in place of the label.
-/

namespace Chartboard

open Json (Value)
open Outcome

/-! ## Labels of models -/

/-- Some labels, each of them once, in the order in which they first come. -/
def firstLabels (labels : List String) : List String :=
  (Ledger.ofList (labels.map fun label => (label, ()))).keys

namespace RenderModel

/-- The labels of the groups that a model shows. -/
def labels : RenderModel → List String
  | pie m => m.slices.map (·.label)
  | funnel m => m.stages.map (·.label)
  | categorical m => m.categories
  | dualAxis m => m.categories
  | _ => []

variable {s : Spec} {rows : List Row} {g : String} {m : RenderModel}

/-- Where there is a mark for each row, it has the label of the row. -/
theorem labels_of_marksEach (hkind : s.kind ≠ .histogram) (hgroup : s.groupBy = some g)
    (h : MarksEach s rows m) : rows.map (·.label? g) = m.labels.map some := by
  cases m with
  | pie m =>
    obtain ⟨-, -, name, hname, hslices⟩ := h
    cases hgroup.symm.trans hname
    rw [← List.zipIdx_map_fst 0 rows, List.map_map, labels, List.map_map]
    exact map_eq_of_forall₂ (hslices.imp fun _ _ hslice => hslice.label)
  | funnel m =>
    obtain ⟨-, -, name, hname, hstages⟩ := h
    cases hgroup.symm.trans hname
    rw [labels, List.map_map]
    exact map_eq_of_forall₂ (hstages.imp fun _ _ hstage => hstage.label)
  | dualAxis m =>
    obtain ⟨-, -, -, -, -, name, hname, hcategories⟩ := h
    cases hgroup.symm.trans hname
    exact map_eq_of_forall₂ hcategories
  | histogram m => exact absurd h.1 hkind
  | _ => cases h

/-- A grid has the labels of its rows for categories, each of them once. -/
theorem labels_gridModel {kind : ChartKind} {key : String}
    {grid : List (String × List (String × Option Float))}
    (h : gridRows kind s g key rows = .ok grid) :
    ∃ labels, rows.map (·.label? g) = labels.map some ∧
      (categorical (gridModel kind s grid)).labels = firstLabels labels := by
  refine ⟨grid.map Prod.fst, ?_, ?_⟩
  · rw [List.map_map]
    exact map_eq_of_forall₂ ((reads_gridRows h).imp fun _ _ hcells => hcells.category)
  · rw [firstLabels, List.map_map]
    exact congrArg Ledger.keys (Pivot.categories_ofRows grid)

/-- A chart with an axis of groups shows the labels of its rows; bars, lines and areas show each of
them once. -/
theorem labels_ofResponse {displayCap : Nat} {response : Response} (hne : response.rows ≠ [])
    (hrequires : s.kind.requiresGroupBy) (hgroup : s.groupBy = some g)
    (h : ofResponse displayCap s.kind s response = .ok m) :
    ∃ labels, response.rows.map (·.label? g) = labels.map some ∧
      m.labels = if s.kind.supportsSubGroup then firstLabels labels else labels := by
  by_cases hgrid : s.kind.supportsSubGroup
  · obtain ⟨-, key, name, grid, -, hname, hrows, rfl⟩ := (ofResponse_categorical hgrid).1 h
    cases hgroup.symm.trans hname
    simp only [hgrid, if_true]
    exact labels_gridModel hrows
  · have hkind : s.kind ≠ .histogram := ((Spec.requiresGroupBy_iff s.kind).1 hrequires).2.2
    have hmarks : s.kind ∈ [ChartKind.pie, .funnel, .dualAxis, .histogram] := by
      revert hrequires hgrid
      cases s.kind <;> decide
    have hread := refusesFirst_ofResponse displayCap hmarks hne
    rw [h] at hread
    simp only [hgrid, Bool.false_eq_true, if_false]
    exact ⟨m.labels, labels_of_marksEach hkind hgroup hread.2, rfl⟩

end RenderModel

/-! ## Labels and keys -/

namespace Spec

/-- The aggregates of a chart have the keys of its values, and one function. -/
theorem keys_of_requestAggregates {s : Spec} {value : String} (hvalue : s.valueColumn = some value)
    {aggregates : List Aggregate} (h : s.requestAggregates value = .ok aggregates) :
    aggregates.map Aggregate.key = s.valueKey.toList ++ s.secondaryKey.toList ∧
      ∀ a ∈ aggregates, a.function = s.aggregation := by
  have hkey := valueKey_of_valueColumn hvalue
  rcases requestAggregates_eq_ok.1 h with ⟨hkind, rfl⟩ | ⟨hkind, second, hsecond, rfl⟩
  · refine ⟨?_, fun a ha => ?_⟩
    · rw [hkey, secondaryKey, if_neg hkind]
      rfl
    · rw [List.mem_singleton.1 ha]
  · refine ⟨?_, fun a ha => ?_⟩
    · rw [hkey, secondaryKey_of_dualAxis hkind, (presentColumn_eq_ok.1 hsecond).1]
      rfl
    · rcases List.mem_pair.1 ha with rfl | rfl
      · rfl
      · rfl

/-- A validated chart with an axis of groups has an answer. -/
theorem exists_answer {s : Spec} {t : Table} {filters : FilterSet}
    (hkind : s.kind ≠ .histogram) (h : s.Prepared t filters) (limits : QueryLimits) :
    ∃ request response, s.compile limits filters = .ok request ∧ t.run request = .ok response := by
  have hchecked := validate_eq_ok.1 h.valid
  obtain ⟨request, hrequest⟩ := compile_total hchecked limits filters
  have hfits := compile_fits h.columns h.trimmed hchecked h.filtered hrequest
  obtain ⟨response, hrun, -⟩ := groups_drawn hkind hrequest hfits 0
  exact ⟨request, response, hrequest, hrun⟩

/-- A chart with an axis of groups and without series has an answer if it is valid. Whenever it has
one, the rows are those of different values of the grouping column, and the chart labels them by
their cells under this column. -/
theorem labels_of_keys {s : Spec} {t : Table} (ht : t.isWellTyped)
    (hrequires : s.kind.requiresGroupBy) (hsub : s.effectiveSubGroup = none) (limits : QueryLimits)
    (filters : FilterSet) (displayCap : Nat) :
    (s.Prepared t filters →
      ∃ request response, s.compile limits filters = .ok request ∧
        t.run request = .ok response) ∧
    ∀ request response, s.compile limits filters = .ok request → t.run request = .ok response →
      ∃ g keys, s.groupBy = some g ∧ request.filters = filters.toFilters ∧
        request.aggregates.map Aggregate.key = s.valueKey.toList ++ s.secondaryKey.toList ∧
        keys.Nodup ∧ List.Forall₂ (t.IsRowOf request g) response.rows keys ∧
        (response.rows ≠ [] →
          ∃ m labels, RenderModel.ofResponse displayCap s.kind s response = .ok m ∧
            response.rows.map (·.label? g) = labels.map some ∧
            m.labels = if s.kind.supportsSubGroup then firstLabels labels else labels) := by
  have hkind : s.kind ≠ .histogram := ((requiresGroupBy_iff s.kind).1 hrequires).2.2
  refine ⟨fun hprepared => exists_answer hkind hprepared limits, ?_⟩
  intro request response hcompile hrun
  obtain ⟨g, value, hg, hvalue, hcolumns, haggregates, hfilters, hhistogram⟩ :=
    compile_grouped hrequires hcompile
  have hgroup : s.groupBy = some g := (presentColumn_eq_ok.1 hg).1
  rw [hsub] at hcolumns
  obtain ⟨hvalues, hfunction⟩ :=
    keys_of_requestAggregates (presentColumn_eq_ok.1 hvalue).1 haggregates
  have hsame : ∀ a ∈ request.aggregates, ∀ b ∈ request.aggregates, b.key = a.key → b = a :=
    fun a ha b hb heq => Aggregate.key_inj heq ((hfunction b hb).trans (hfunction a ha).symm)
  obtain ⟨keys, hnodup, hrows⟩ := Table.exists_keys ht hcolumns hhistogram hsame hrun
  refine ⟨g, keys, hgroup, hfilters, hvalues, hnodup, hrows, fun hne => ?_⟩
  have hcomplete := Table.complete_of_run (by rw [hcolumns]; exact List.cons_ne_nil _ _)
    hhistogram hrun
  obtain ⟨m, hdrawn, -⟩ := RenderModel.ofResponse_total displayCap hkind hne
    (readable_of_compile hkind hcompile hcomplete)
  obtain ⟨labels, hlabels, hshown⟩ :=
    RenderModel.labels_ofResponse hne hrequires hgroup hdrawn
  exact ⟨m, labels, hdrawn, hlabels, hshown⟩

/-- A slice for each region, as large as the number of its sales. -/
def regionPie : Spec where
  kind := .pie
  groupBy := some "region"
  valueColumn := some "region"
  aggregation := .count

/-- The request of the slices. -/
def regionRequest : Request where
  groupBy := ["region"]
  aggregates := [⟨"region", .count⟩]
  limit := 1000

/-- The answer with the number of sales in each of two regions. -/
def regionResponse : Response where
  rows := [.ofList [("region", .string "East"), ("region_count", .int 2)],
    .ofList [("region", .string "West"), ("region_count", .int 1)]]
  totalRows := some 2
  columns := ["region", "region_count"]

/-- The slices of the pie are labelled by the regions, of which no two are the same. -/
theorem labels_of_keys_regionPie :
    regionPie.Prepared Table.regionTable ∅ ∧ regionPie.kind.requiresGroupBy ∧
      regionPie.effectiveSubGroup = none ∧ regionPie.compile {} ∅ = .ok regionRequest ∧
      Table.regionTable.run regionRequest = .ok regionResponse ∧
      ∃ keys, keys.Nodup ∧
        List.Forall₂ (Table.regionTable.IsRowOf regionRequest "region") regionResponse.rows keys ∧
        ∃ m labels, RenderModel.ofResponse 100 .pie regionPie regionResponse = .ok m ∧
          regionResponse.rows.map (·.label? "region") = labels.map some ∧ m.labels = labels := by
  have hprepared : regionPie.Prepared Table.regionTable ∅ :=
    prepared_empty (by decide +kernel) (List.cons_ne_nil _ _) (by decide +kernel) rfl
  have hcompile : regionPie.compile {} ∅ = .ok regionRequest := rfl
  have hrun : Table.regionTable.run regionRequest = .ok regionResponse := rfl
  obtain ⟨g, keys, hg, -, -, hnodup, hrows, hdrawn⟩ :=
    (labels_of_keys hprepared.typed rfl rfl {} ∅ 100).2 regionRequest regionResponse hcompile hrun
  cases hg
  obtain ⟨m, labels, hm, hlabels, hshown⟩ := hdrawn (List.cons_ne_nil _ _)
  exact ⟨hprepared, rfl, rfl, hcompile, hrun, keys, hnodup, hrows, m, labels, hm, hlabels, hshown⟩

/-- Sales with a column that is called like the number of regions. -/
def ratedTable : Table where
  columns := [⟨"region", .text⟩, ⟨"region_count", .text⟩]
  records := [[.text "East", .text "many"], [.text "West", .text "many"],
    [.text "East", .text "few"]]

/-- A slice for each text of that column, as large as the number of its sales. -/
def ratedPie : Spec where
  kind := .pie
  groupBy := some "region_count"
  valueColumn := some "region"
  aggregation := .count

/-- The numbers of sales stand in place of the texts that the groups have in common. -/
theorem ratedPie_labelled_by_counts :
    ratedPie.Prepared ratedTable ∅ ∧ ratedPie.effectiveSubGroup = none ∧
      ∃ request response m, ratedPie.compile {} ∅ = .ok request ∧
        ratedTable.run request = .ok response ∧
        RenderModel.ofResponse 100 .pie ratedPie response = .ok m ∧ m.labels = ["2", "1"] ∧
        response.rows ≠ [] ∧ ∀ row ∈ response.rows, ∀ record ∈ ratedTable.records,
          row.get? "region_count" ≠ some (ratedTable.readAt "region_count" record) := by
  have hprepared : ratedPie.Prepared ratedTable ∅ :=
    prepared_empty (by decide +kernel) (List.cons_ne_nil _ _) (by decide +kernel) rfl
  refine ⟨hprepared, rfl, _, _, _, rfl, rfl, rfl, rfl, List.cons_ne_nil _ _, ?_⟩
  intro row hrow record hrecord heq
  have hcount : ∃ n : Int, row.get? "region_count" = some (.int n) := by
    rcases List.mem_pair.1 hrow with rfl | rfl
    · exact ⟨2, rfl⟩
    · exact ⟨1, rfl⟩
  have htext : ∃ x, ratedTable.readAt "region_count" record = .string x := by
    rcases List.mem_cons.1 hrecord with rfl | hrecord
    · exact ⟨"many", rfl⟩
    · rcases List.mem_pair.1 hrecord with rfl | rfl
      · exact ⟨"many", rfl⟩
      · exact ⟨"few", rfl⟩
  obtain ⟨n, hn⟩ := hcount
  obtain ⟨x, hx⟩ := htext
  rw [hn, hx] at heq
  cases heq

end Spec

end Chartboard
