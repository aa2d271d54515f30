import Chartboard.Proofs.Chart.Drawable

/-!
# Histograms count every value once

The rows of a histogram hold natural numbers under the name of counting its column. Every value is
put into one bin, so together these numbers are as many as the selected rows that have a value. A
validated histogram of a table with columns shows all its bins, since they are fewer than the rows
that an answer may have.
-/

namespace Chartboard

open Outcome

namespace Table

/-- Rows that count each value of a column in some records once, and the counts that they hold. -/
structure CountsOnce (t : Table) (column : String) (bins : Nat) (records : List Record)
    (rows : List Row) (counts : List Nat) : Prop where
  /-- Every row holds its count. -/
  held : List.Forall₂ (fun row n => row.get? (histogramCountKey column) = some (.int n)) rows counts
  /-- The counts add up to the number of records that have a value. -/
  total : counts.sum = (t.withValue column records).length
  /-- When a value comes, its bin is one of those that are counted. -/
  inside : ∀ before value after, t.numbersAt column records = before ++ value :: after →
    (t.binning column bins records).index value <
      ((t.binning column bins records).frequencies before).length
  /-- A count is the number of values in its bin. -/
  share : ∀ i n, counts[i]? = some n →
    n = (t.numbersAt column records).countP fun value =>
      (t.binning column bins records).index value = i

/-- The row of every bin holds the frequency of the bin. -/
theorem held_rows (b : Binning) (column : String) (values : List Float) :
    List.Forall₂ (fun row n => row.get? (histogramCountKey column) = some (.int n))
      (b.rows column values) (b.frequencies values) := by
  have hcounts := List.zipIdx_map_fst 0 (b.frequencies values)
  rw [← hcounts, Binning.rows, List.forall₂_map_left_iff, List.forall₂_map_right_iff,
    List.forall₂_same]
  intro p _
  exact Binning.get?_row_count b column p.2 p.1

/-- The rows of the bins count the values of a column that can be binned. -/
theorem countsOnce_binRows {t : Table} {column : String} {ref : ColumnRef} {records : List Record}
    (hfound : t.column? column = some ref)
    (hread : ∀ r ∈ records, (ref.read r).isNull ∨ (ref.read r).asNumber?.isSome) {bins : Nat}
    (hpos : 0 < bins) :
    ∃ counts, t.CountsOnce column bins records (t.binRows column bins records) counts := by
  have hlength := length_numbersAt hfound hread
  have hinside : ∀ before value after, t.numbersAt column records = before ++ value :: after →
      (t.binning column bins records).index value <
        ((t.binning column bins records).frequencies before).length :=
    fun before value _ _ => Binning.index_lt_length_frequencies hpos before value
  by_cases hempty : t.numbersAt column records = []
  · refine ⟨[], ⟨?_, ?_, hinside, ?_⟩⟩
    · unfold binRows
      rw [if_pos hempty]
      exact .nil
    · rw [← hlength, hempty]
      rfl
    · rintro i n ⟨⟩
  · refine ⟨(t.binning column bins records).frequencies (t.numbersAt column records),
      ⟨?_, ?_, hinside, ?_⟩⟩
    · unfold binRows
      rw [if_neg hempty]
      exact held_rows _ _ _
    · rw [Binning.sum_frequencies _ hpos, hlength]
    · intro i n hn
      obtain ⟨hi, -⟩ := List.getElem?_eq_some_iff.1 hn
      rw [Binning.length_frequencies] at hi
      rw [Binning.getElem?_frequencies _ _ hi] at hn
      exact (Option.some.inj hn).symm

end Table

namespace Spec

/-- A validated histogram compiles to a request for at most a hundred bins of a numeric column. -/
theorem compile_prepared_histogram {s : Spec} {t : Table} {filters : FilterSet}
    (h : s.Prepared t filters) (hkind : s.kind = .histogram) (limits : QueryLimits) :
    ∃ column bins ref, s.valueColumn = some column ∧ s.bins = some bins ∧ 1 ≤ bins ∧ bins ≤ 100 ∧
      t.Numeric column ref ∧
      s.compile limits filters = .ok (histogramRequest column bins limits filters) := by
  have hchecked := validate_eq_ok.1 h.valid
  obtain ⟨request, hrequest⟩ := compile_total hchecked limits filters
  have hfits := compile_fits h.columns h.trimmed hchecked h.filtered hrequest
  obtain ⟨column, bins, hcolumn, hbins, rfl⟩ := (compile_histogram hkind).1 hrequest
  obtain ⟨_, dtype, _, haggregates, hdtype, hnumeric, hsome, hmin, hmax⟩ :=
    hfits.histogram_suits rfl
  cases haggregates
  cases hsome
  obtain ⟨ref, href⟩ := Table.numeric_of_dtype h.typed hdtype hnumeric
  exact ⟨column, bins, ref, (presentColumn_eq_ok.1 hcolumn).1, hbins, Nat.le_of_succ_le hmin, hmax,
    href, hrequest⟩

end Spec

namespace Table

/-- A validated histogram of a table with columns has an answer that counts every value of the
selected rows once: all its bins, or no row if there is no value. And whenever a histogram has an
answer, whatever its number of bins is, the result from which it is cut counts every value once. -/
theorem values_counted_once (t : Table) :
    (∀ (s : Spec) (filters : FilterSet), s.Prepared t filters → s.kind = .histogram →
      ∃ column bins request response counts, s.valueColumn = some column ∧ s.bins = some bins ∧
        s.compile {} filters = .ok request ∧ t.run request = .ok response ∧
        t.CountsOnce column bins (t.selection filters.toFilters) response.rows counts ∧
        (t.withValue column (t.selection filters.toFilters) ≠ [] → response.rows.length = bins) ∧
        (t.withValue column (t.selection filters.toFilters) = [] → response.rows = []) ∧
        response.totalRows = some response.rows.length) ∧
    ∀ (request : Request) (response : Response), request.isHistogram →
      t.run request = .ok response →
      ∃ a rest result counts, request.aggregates = a :: rest ∧ t.result request = .ok result ∧
        answer request result = .ok response ∧
        t.CountsOnce a.column (max 1 (request.bins.getD defaultBins))
          (t.selection request.filters) result.rows counts := by
  constructor
  · intro s filters h hkind
    obtain ⟨column, bins, ref, hcolumn, hbins, hpos, hmax, href, hcompile⟩ :=
      Spec.compile_prepared_histogram h hkind {}
    have hread : ∀ r ∈ t.selection filters.toFilters,
        (ref.read r).isNull ∨ (ref.read r).asNumber?.isSome :=
      fun r hr => href.number r (mem_records_of_selection hr)
    let request := Spec.histogramRequest column bins {} filters
    let result := t.histogramResult column bins (t.selection filters.toFilters)
    have hresult : t.result request = .ok result :=
      result_histogram rfl h.filtered rfl rfl hpos href
    -- The default limit of rows is ten times as large as the largest number of bins.
    have hlimit : bins ≤ request.limit := hmax.trans (show 100 ≤ 1000 by decide)
    obtain ⟨response, hanswer, hrows⟩ : ∃ response, answer request result = .ok response ∧ _ :=
      answer_histogramResult rfl hlimit t column (t.selection filters.toFilters)
    obtain ⟨counts, hcounts⟩ := countsOnce_binRows href.found hread hpos
    refine ⟨column, bins, request, response, counts, hcolumn, hbins, hcompile,
      run_eq_ok.2 ⟨result, hresult, hanswer⟩, ?_⟩
    rw [hrows]
    refine ⟨hcounts, ?_, ?_, ?_⟩
    · intro hvalue
      rw [length_binRows, if_neg]
      rwa [← List.length_eq_zero_iff, length_numbersAt href.found hread, List.length_eq_zero_iff]
    · exact (binRows_eq_nil_iff href hpos fun r hr => mem_records_of_selection hr).2
    · obtain ⟨rows, -, rfl⟩ := answer_eq_ok.1 hanswer
      rfl
  · intro request response hhistogram hrun
    obtain ⟨result, hresult, hanswer⟩ := run_eq_ok.1 hrun
    obtain ⟨a, rest, ref, haggregates, hfound, hread, rfl⟩ := eq_histogramResult hhistogram hresult
    obtain ⟨counts, hcounts⟩ := countsOnce_binRows hfound hread
      (Nat.lt_of_lt_of_le Nat.zero_lt_one (Nat.le_max_left 1 (request.bins.getD defaultBins)))
    exact ⟨a, rest, _, counts, haggregates, hresult, hanswer, hcounts⟩

/-! ## Hard and empty tables -/

/-- Zero and the least positive double, the third part of which is zero again. -/
def leastTable : Table where
  columns := [⟨"load", .float 64⟩]
  records := [[.float 0.0], [.null], [.float (Float.ofBits 1)]]

/-- The loads in three bins, all of them of no width. -/
def leastHistogram : Spec where
  kind := .histogram
  valueColumn := some "load"
  bins := some 3

/-- The loads in one bin, asked for as none. -/
def noBins : Request where
  aggregates := [⟨"load", .sum⟩]
  sortBy := [⟨"load_count", .desc⟩]
  limit := 1
  isHistogram := true
  bins := some 0

/-- The two loads are counted once in three bins of no width, and once in a single bin where none
was asked for. -/
theorem values_counted_once_leastTable :
    leastHistogram.Prepared leastTable ∅ ∧ leastHistogram.kind = .histogram ∧
    (∃ column bins request response counts, leastHistogram.valueColumn = some column ∧
      leastHistogram.bins = some bins ∧ leastHistogram.compile {} ∅ = .ok request ∧
      leastTable.run request = .ok response ∧
      leastTable.CountsOnce column bins (leastTable.selection (∅ : FilterSet).toFilters)
        response.rows counts ∧
      (leastTable.withValue column (leastTable.selection (∅ : FilterSet).toFilters) ≠ [] →
        response.rows.length = bins) ∧
      (leastTable.withValue column (leastTable.selection (∅ : FilterSet).toFilters) = [] →
        response.rows = []) ∧
      response.totalRows = some response.rows.length) ∧
    noBins.isHistogram ∧
    ∃ response, leastTable.run noBins = .ok response ∧
      ∃ a rest result counts, noBins.aggregates = a :: rest ∧
        leastTable.result noBins = .ok result ∧ answer noBins result = .ok response ∧
        leastTable.CountsOnce a.column (max 1 (noBins.bins.getD defaultBins))
          (leastTable.selection noBins.filters) result.rows counts := by
  have hprepared : leastHistogram.Prepared leastTable ∅ :=
    Spec.prepared_empty (by decide +kernel) (List.cons_ne_nil _ _) (by decide +kernel) rfl
  -- One bin is asked for, so there is one row, which is sorted whatever the clause is.
  obtain ⟨response, hrun⟩ : ∃ response, leastTable.run noBins = .ok response := by
    obtain ⟨result, hresult⟩ : ∃ result, leastTable.result noBins = .ok result := ⟨_, rfl⟩
    have hlength : result.rows.length ≤ StableSort.insertionLength := by
      obtain ⟨a, rest, ref, -, -, -, rfl⟩ := eq_histogramResult rfl hresult
      show (leastTable.binRows a.column 1 _).length ≤ StableSort.insertionLength
      rw [length_binRows]
      split <;> decide
    obtain ⟨response, hanswer⟩ := @answer_total noBins result hlength
    exact ⟨response, run_eq_ok.2 ⟨result, hresult, hanswer⟩⟩
  exact ⟨hprepared, rfl, (values_counted_once leastTable).1 leastHistogram ∅ hprepared rfl, rfl,
    response, hrun, (values_counted_once leastTable).2 noBins response rfl hrun⟩

/-- A double that is no number between two that are. -/
def gapTable : Table where
  columns := [⟨"load", .float 64⟩]
  records := [[.float 1.0], [.float (Float.ofBits 0x7FF8000000000000)], [.float 3.0]]

/-- The integers that the rows of an answer hold under a name, if there is an answer. -/
def integersUnder? (t : Table) (request : Request) (key : String) : Option (List (Option Int)) :=
  (t.run request).toOption.map fun response => response.rows.map fun row =>
    match row.get? key with
    | some (.number (.int i)) => some i
    | _ => none

/-- Where there are no columns none is known to be missing, so a histogram is valid and compiles,
but the table cannot be asked for its column. And a cell that is stored but holds no number reads as
null and is not counted. -/
theorem noColumns_refused_notANumber_uncounted :
    (({} : Table).isWellTyped ∧ leastHistogram.isTrimmed ∧
      leastHistogram.validate ({} : Table).catalog = .ok () ∧
      leastHistogram.compile {} ∅ = .ok (Spec.histogramRequest "load" 3 {} ∅) ∧
      ({} : Table).run (Spec.histogramRequest "load" 3 {} ∅) = .error (.unknownColumn "load")) ∧
    leastHistogram.Prepared gapTable ∅ ∧
    (gapTable.selection (∅ : FilterSet).toFilters).length = 3 ∧
    (∀ r ∈ gapTable.records, r ≠ [.null]) ∧
    gapTable.integersUnder? (Spec.histogramRequest "load" 3 {} ∅) "load_count" =
      some [some 1, some 0, some 1] := by
  refine ⟨⟨by decide +kernel, by decide +kernel, rfl, rfl, rfl⟩,
    Spec.prepared_empty (by decide +kernel) (List.cons_ne_nil _ _) (by decide +kernel) rfl, rfl,
    ?_, by decide +kernel⟩
  intro r hr hnull
  subst hnull
  simp [gapTable] at hr

end Table

end Chartboard
