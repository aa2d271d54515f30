import Chartboard.Proofs.Render.Bins
import Chartboard.Proofs.Render.Readable

/-!
# Validated specifications are drawn

A specification that passes validation against the catalog of a table compiles, runs on that table
and is drawn, or there is nothing to draw. One case is left out: a histogram of a column that is
called like the upper edge of a bin is drawn only if the upper edges are finite.
-/

namespace Chartboard

open Outcome

/-! ## Rows of compiled requests -/

/-- The rows of a compiled request have the cells that the specification reads. -/
theorem Spec.readable_of_compile {s : Spec} (hkind : s.kind ≠ .histogram) {limits : QueryLimits}
    {filters : FilterSet} {request : Request} (h : s.compile limits filters = .ok request)
    {rows : List Row} (hrows : Table.Complete request rows) :
    RenderModel.Readable s rows := by
  obtain ⟨value, groupBy, aggregates, hvalue, hgroupBy, haggregates, rfl⟩ :=
    (compile_groups hkind).1 h
  have hcolumn := (presentColumn_eq_ok.1 hvalue).1
  have haggregate : ∀ a ∈ aggregates, ∀ row ∈ rows, a.key ∈ row.keys := by
    intro a ha row hrow
    exact (hrows row hrow a.key).2 (Or.inr (List.mem_map_of_mem ha))
  refine ⟨⟨Aggregate.key ⟨value, s.aggregation⟩, ?_, ?_⟩, ?_, ?_⟩
  · unfold valueKey
    rw [hcolumn]
    rfl
  · apply haggregate
    rcases requestAggregates_eq_ok.1 haggregates with ⟨-, rfl⟩ | ⟨-, second, -, rfl⟩
    · exact List.mem_cons_self
    · exact List.mem_cons_self
  · intro hrequires
    obtain ⟨name, hname, hmem⟩ := groupColumns_of_requiresGroupBy hrequires hgroupBy
    exact ⟨name, hname, fun row hrow => (hrows row hrow name).2 (Or.inl hmem)⟩
  · intro hdual
    rcases requestAggregates_eq_ok.1 haggregates with ⟨hnot, -⟩ | ⟨-, second, hsecond, rfl⟩
    · exact absurd hdual hnot
    · refine ⟨Aggregate.key ⟨second, s.aggregation⟩, ?_, ?_⟩
      · unfold secondaryKey
        rw [if_pos hdual, (presentColumn_eq_ok.1 hsecond).1]
        rfl
      · exact haggregate _ (List.mem_cons_of_mem _ List.mem_cons_self)

namespace Spec

/-- The rows that a chart counts: those that agree with the filters, and for a histogram those of
them that have a value. -/
def counted (s : Spec) (t : Table) (filters : FilterSet) : List Record :=
  if s.kind = .histogram then
    t.withValue (s.valueColumn.getD "") (t.selection filters.toFilters)
  else t.selection filters.toFilters

/-- The bins of a histogram on a table. -/
def binning (s : Spec) (t : Table) (filters : FilterSet) : Binning :=
  t.binning (s.valueColumn.getD "") (s.bins.getD Table.defaultBins)
    (t.selection filters.toFilters)

/-- What a validated specification is drawn from. -/
structure Prepared (s : Spec) (t : Table) (filters : FilterSet) : Prop where
  /-- The cells of the table are of the types of its columns. -/
  typed : t.isWellTyped
  /-- The table has columns. -/
  columns : t.columns ≠ []
  /-- The specification names its columns without blanks around them. -/
  trimmed : s.isTrimmed
  /-- The filters are on columns of the table. -/
  filtered : ∀ f ∈ filters.toFilters, f.column ∈ t.names
  /-- The specification is valid for the catalog of the table. -/
  valid : s.validate t.catalog = .ok ()

/-- Without filters there is nothing to be known of them. -/
theorem prepared_empty {s : Spec} {t : Table} (htyped : t.isWellTyped) (hcolumns : t.columns ≠ [])
    (htrimmed : s.isTrimmed) (hvalid : s.validate t.catalog = .ok ()) : s.Prepared t ∅ where
  typed := htyped
  columns := hcolumns
  trimmed := htrimmed
  filtered f hf := by cases hf
  valid := hvalid

/-- A chart that is no histogram is drawn if a row is counted. -/
theorem groups_drawn {s : Spec} {t : Table} {filters : FilterSet} (hkind : s.kind ≠ .histogram)
    {limits : QueryLimits} {request : Request} (h : s.compile limits filters = .ok request)
    (hfits : request.Fits t) (displayCap : Nat) :
    ∃ response, t.run request = .ok response ∧
      (response.rows = [] ↔ s.counted t filters = []) ∧
      (response.rows ≠ [] →
        ∃ m, RenderModel.ofResponse displayCap s.kind s response = .ok m ∧ m.kind = s.kind) := by
  obtain ⟨value, groupBy, aggregates, -, -, haggregates, rfl⟩ := (compile_groups hkind).1 h
  have hsome : aggregates ≠ [] := by
    rcases requestAggregates_eq_ok.1 haggregates with ⟨-, rfl⟩ | ⟨-, second, -, rfl⟩
    · exact List.cons_ne_nil _ _
    · exact List.cons_ne_nil _ _
  obtain ⟨response, hrun, hempty, hcomplete⟩ :=
    Table.run_groups hfits rfl hsome (sortsByAggregate_of_compile hkind h)
  refine ⟨response, hrun, ?_, fun hne => ?_⟩
  · unfold counted
    rw [if_neg hkind]
    exact hempty
  · exact RenderModel.ofResponse_total displayCap hkind hne (readable_of_compile hkind h hcomplete)

/-- The middles of all bins are finite, if a row is counted. -/
def HasFiniteMiddles (s : Spec) (t : Table) (filters : FilterSet) : Prop :=
  s.counted t filters ≠ [] →
    ∀ i < (s.binning t filters).count, ((s.binning t filters).middle i).isFinite

/-- A histogram is drawn if a row is counted and no upper edge that stands in the place of a middle
is infinite. -/
theorem histogram_drawn {s : Spec} {t : Table} (ht : t.isWellTyped) {filters : FilterSet}
    (hkind : s.kind = .histogram) (hmiddles : s.HasFiniteMiddles t filters)
    {limits : QueryLimits} {request : Request} (h : s.compile limits filters = .ok request)
    (hfits : request.Fits t) (displayCap : Nat) :
    ∃ response, t.run request = .ok response ∧
      (response.rows = [] ↔ s.counted t filters = []) ∧
      (response.rows ≠ [] →
        ((∃ m, RenderModel.ofResponse displayCap s.kind s response = .ok m ∧ m.kind = s.kind) ↔
          (s.valueColumn = some binEndKey →
            ∀ i < response.rows.length, ((s.binning t filters).upper i).isFinite))) := by
  obtain ⟨column, bins, hcolumn, hbins, rfl⟩ := (compile_histogram hkind).1 h
  obtain ⟨_, dtype, _, haggregates, hdtype, hnumeric, hsome, hmin, -⟩ := hfits.histogram_suits rfl
  cases haggregates
  cases hsome
  have hvalue := (presentColumn_eq_ok.1 hcolumn).1
  obtain ⟨ref, href⟩ := Table.numeric_of_dtype ht hdtype hnumeric
  obtain ⟨response, hrun, hempty, hrow⟩ := Table.run_histogram rfl rfl hfits.filters_known rfl rfl
    (Nat.le_of_succ_le hmin) href
  have hbinning : s.binning t filters =
      t.binning column bins (t.selection filters.toFilters) := by
    unfold binning
    rw [hvalue, hbins, Option.getD_some, Option.getD_some]
  have hcounted : s.counted t filters = t.withValue column (t.selection filters.toFilters) := by
    unfold counted
    rw [if_pos hkind, hvalue, Option.getD_some]
  have hfilters : (histogramRequest column bins limits filters).filters = filters.toFilters := rfl
  rw [hfilters] at hempty hrow
  rw [← hcounted] at hempty
  refine ⟨response, hrun, hempty, fun hne => ?_⟩
  have hmiddle := hmiddles fun hnone => hne (hempty.2 hnone)
  rw [RenderModel.ofResponse_histogram displayCap hkind hvalue hne, hvalue, hbinning]
  rw [hbinning] at hmiddle
  constructor
  · intro hall hend i hi
    obtain ⟨hi', n, hn⟩ := hrow i hi
    have hbin := hall _ (List.getElem_mem hi)
    rw [hn] at hbin
    exact (RenderModel.binOf_row (hmiddle i hi')).1 hbin (Option.some.inj hend)
  · intro hfinite row hmem
    obtain ⟨i, hi, rfl⟩ := List.getElem_of_mem hmem
    obtain ⟨hi', n, hn⟩ := hrow i hi
    rw [hn]
    exact (RenderModel.binOf_row (hmiddle i hi')).2 fun hend => hfinite (congrArg some hend) i hi

/-- A validated specification compiles to a request that asks only for what is there, which runs;
its answer is empty exactly if no row is counted, and else it is drawn by the kind of chart that
the specification says. Only a histogram of a column that is called like the upper edge of a bin
needs the upper edges of its bins to be finite as well. -/
theorem drawn_of_valid {s : Spec} {t : Table} {filters : FilterSet} (h : s.Prepared t filters)
    (hmiddles : s.kind = .histogram → s.HasFiniteMiddles t filters) (limits : QueryLimits)
    (displayCap : Nat) :
    ∃ request response, s.compile limits filters = .ok request ∧ request.Fits t ∧
      t.run request = .ok response ∧
      (RenderModel.ofResponse displayCap s.kind s response = .error (.emptyResult s.kind) ↔
        s.counted t filters = []) ∧
      ((∃ m, RenderModel.ofResponse displayCap s.kind s response = .ok m ∧ m.kind = s.kind) ↔
        s.counted t filters ≠ [] ∧
        (s.kind = .histogram → s.valueColumn = some binEndKey →
          ∀ i < response.rows.length, ((s.binning t filters).upper i).isFinite)) := by
  have hchecked := validate_eq_ok.1 h.valid
  obtain ⟨request, hrequest⟩ := compile_total hchecked limits filters
  have hfits := compile_fits h.columns h.trimmed hchecked h.filtered hrequest
  by_cases hkind : s.kind = .histogram
  · obtain ⟨response, hrun, hempty, hdrawn⟩ :=
      histogram_drawn h.typed hkind (hmiddles hkind) hrequest hfits displayCap
    refine ⟨request, response, hrequest, hfits, hrun, ?_, ?_⟩
    · rw [RenderModel.ofResponse_eq_emptyResult, hempty]
    · by_cases hrows : response.rows = []
      · rw [RenderModel.ofResponse_of_isEmpty displayCap s.kind s hrows]
        simp [hempty.1 hrows]
      · rw [hdrawn hrows]
        have hcounted : s.counted t filters ≠ [] := fun hnone => hrows (hempty.2 hnone)
        simp [hcounted, hkind]
  · obtain ⟨response, hrun, hempty, hdrawn⟩ := groups_drawn hkind hrequest hfits displayCap
    refine ⟨request, response, hrequest, hfits, hrun, ?_, ?_⟩
    · rw [RenderModel.ofResponse_eq_emptyResult, hempty]
    · by_cases hrows : response.rows = []
      · rw [RenderModel.ofResponse_of_isEmpty displayCap s.kind s hrows]
        simp [hempty.1 hrows]
      · have hcounted : s.counted t filters ≠ [] := fun hnone => hrows (hempty.2 hnone)
        simp [hdrawn hrows, hcounted, hkind]

/-- Two sales of one shop. -/
def salesTable : Table where
  columns := [⟨"sales", .float 64⟩]
  records := [[.float 10.0], [.null], [.float 30.0]]

/-- The sales in two bins. -/
def salesHistogram : Spec where
  kind := .histogram
  valueColumn := some "sales"
  bins := some 2

/-- The histogram of the sales is valid, so it is drawn if a sale is counted. -/
theorem drawn_of_valid_sales :
    salesHistogram.Prepared salesTable ∅ ∧ salesHistogram.HasFiniteMiddles salesTable ∅ ∧
    ∃ request response, salesHistogram.compile {} ∅ = .ok request ∧ request.Fits salesTable ∧
      salesTable.run request = .ok response ∧
      (RenderModel.ofResponse 100 .histogram salesHistogram response =
          .error (.emptyResult .histogram) ↔ salesHistogram.counted salesTable ∅ = []) ∧
      ((∃ m, RenderModel.ofResponse 100 .histogram salesHistogram response = .ok m ∧
          m.kind = .histogram) ↔
        salesHistogram.counted salesTable ∅ ≠ [] ∧
        (salesHistogram.kind = .histogram → salesHistogram.valueColumn = some binEndKey →
          ∀ i < response.rows.length, ((salesHistogram.binning salesTable ∅).upper i).isFinite)) := by
  have hprepared : salesHistogram.Prepared salesTable ∅ := by
    refine ⟨by decide +kernel, List.cons_ne_nil _ _, by decide +kernel, ?_, rfl⟩
    intro f hf
    cases hf
  have hmiddles : salesHistogram.HasFiniteMiddles salesTable ∅ := by
    intro _
    decide +kernel
  exact ⟨hprepared, hmiddles, drawn_of_valid hprepared (fun _ => hmiddles) {} 100⟩

/-- A column that is called like the upper edge of a bin and holds the least and the greatest
of the doubles that are not negative. -/
def wideTable : Table where
  columns := [⟨"bin_end", .float 64⟩]
  records := [[.float 0.0], [.float (Float.ofBits 0x7FEFFFFFFFFFFFFF)]]

/-- That column in three bins, the last of which ends beyond the doubles. -/
def wideHistogram : Spec where
  kind := .histogram
  valueColumn := some "bin_end"
  bins := some 3

/-- The refusal of an answer, if it is refused. -/
def refusal? (displayCap : Nat) (s : Spec) (response : Except QueryError Response) :
    Option AdaptError :=
  match response with
  | .error _ => none
  | .ok r =>
    match RenderModel.ofResponse displayCap s.kind s r with
    | .error e => some e
    | .ok _ => none

/-- A valid histogram of a column that is called like the upper edge of a bin is refused: all its
middles are finite, but the last upper edge, which stands in their place, is not. -/
theorem wideHistogram_refused :
    wideHistogram.Prepared wideTable ∅ ∧ wideHistogram.HasFiniteMiddles wideTable ∅ ∧
    ∃ request response, wideHistogram.compile {} ∅ = .ok request ∧
      wideTable.run request = .ok response ∧
      RenderModel.ofResponse 100 .histogram wideHistogram response =
        .error (.malformedResponse .histogram "bin_end") := by
  have hprepared : wideHistogram.Prepared wideTable ∅ := by
    refine ⟨by decide +kernel, List.cons_ne_nil _ _, by decide +kernel, ?_, rfl⟩
    intro f hf
    cases hf
  have hmiddles : wideHistogram.HasFiniteMiddles wideTable ∅ := by
    intro _
    decide +kernel
  have hrefusal : refusal? 100 wideHistogram
      (wideTable.run (histogramRequest "bin_end" 3 {} ∅)) =
      some (.malformedResponse .histogram "bin_end") := by
    decide +kernel
  refine ⟨hprepared, hmiddles, histogramRequest "bin_end" 3 {} ∅, ?_⟩
  unfold refusal? at hrefusal
  split at hrefusal
  · cases hrefusal
  · rename_i response hrun
    refine ⟨response, rfl, hrun, ?_⟩
    split at hrefusal
    · rename_i e he
      cases hrefusal
      exact he
    · cases hrefusal

end Spec

end Chartboard
