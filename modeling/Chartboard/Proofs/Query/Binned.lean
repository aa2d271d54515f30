import Chartboard.Proofs.Data.Typing
import Chartboard.Proofs.Query.Running
import Chartboard.Proofs.Query.Tally

/-!
# Binned columns

The values of a numeric column are the numbers that its cells read as, without the nulls. The
result of a histogram is one row for each of the equal bins of these values, in their order, and
no row if there are no values.
-/

namespace Chartboard

open Json (Value)
open Outcome

namespace Table

/-- The rows that have a value in a column. -/
def withValue (t : Table) (name : String) (records : List Record) : List Record :=
  records.filter fun record => !(t.readAt name record).isNull

/-- The numbers that some rows have in a column. -/
def numbersAt (t : Table) (name : String) (records : List Record) : List Float :=
  records.filterMap fun record => (t.readAt name record).asNumber?

/-- Null is the only value that is null. -/
theorem isNull_iff {v : Value} : v.isNull ↔ v = .null := by
  cases v <;> simp [Value.isNull]

/-- A column can be binned if every cell of it is null or reads as a number. -/
theorem numbers_eq_ok {column : String} {ref : ColumnRef} {records : List Record}
    (h : ∀ r ∈ records, (ref.read r).isNull ∨ (ref.read r).asNumber?.isSome) :
    numbers column ref records = .ok (records.filterMap fun r => (ref.read r).asNumber?) := by
  unfold numbers
  rw [mapM_eq_ok]
  induction records with
  | nil => exact List.Forall₂.nil
  | cons r rest ih =>
    have hrest := ih fun s hs => h s (List.mem_cons_of_mem r hs)
    rw [List.map_cons]
    rcases h r List.mem_cons_self with hnull | hnumber
    · have hnone : (ref.read r).asNumber? = none := by
        rw [isNull_iff.1 hnull]
        rfl
      rw [List.filter_cons_of_neg (by simp [hnull]),
        List.filterMap_cons_none (f := fun r => (ref.read r).asNumber?) hnone]
      exact hrest
    · obtain ⟨x, hx⟩ := Option.isSome_iff_exists.1 hnumber
      have hvalue : (ref.read r).isNull = false := by
        cases hv : ref.read r with
        | null => rw [hv] at hx; cases hx
        | _ => rfl
      rw [List.filter_cons_of_pos (by simp [hvalue]),
        List.filterMap_cons_some (f := fun r => (ref.read r).asNumber?) hx]
      exact List.Forall₂.cons (by rw [hx]) hrest

/-- A column can be binned only if every cell of it is null or reads as a number. -/
theorem readable_of_numbers {column : String} {ref : ColumnRef} {records : List Record}
    {values : List Float} (h : numbers column ref records = .ok values) :
    ∀ r ∈ records, (ref.read r).isNull ∨ (ref.read r).asNumber?.isSome := by
  intro r hr
  by_cases hnull : (ref.read r).isNull
  · exact .inl hnull
  · have hmem : ref.read r ∈ (records.map ref.read).filter fun v => !v.isNull :=
      List.mem_filter.2 ⟨List.mem_map_of_mem hr, by simp [hnull]⟩
    obtain ⟨x, -, hx⟩ := mapM_ok_mem h hmem
    split at hx
    · rename_i number hnumber
      exact .inr (by rw [hnumber, Option.isSome_some])
    · cases hx

/-- There is one number for each value. -/
theorem length_filterMap_asNumber? {ref : ColumnRef} {records : List Record}
    (h : ∀ r ∈ records, (ref.read r).isNull ∨ (ref.read r).asNumber?.isSome) :
    (records.filterMap fun r => (ref.read r).asNumber?).length =
      (records.filter fun r => !(ref.read r).isNull).length := by
  have hnumbers := mapM_length (@numbers_eq_ok "" ref records h)
  rw [List.filter_map, List.length_map] at hnumbers
  exact hnumbers

end Table

namespace Binning

/-- The lower edge of a bin. -/
def lower (b : Binning) (i : Nat) : Float :=
  b.start + Float.ofNat i * b.width

/-- The middle of a bin. -/
def middle (b : Binning) (i : Nat) : Float :=
  b.lower i + b.width / 2.0

/-- The upper edge of a bin. -/
def upper (b : Binning) (i : Nat) : Float :=
  b.lower i + b.width

/-- The rows of all bins, each with its number of values. -/
def rows (b : Binning) (column : String) (values : List Float) : List Row :=
  (b.frequencies values).zipIdx.map fun (n, i) => b.row column i n

/-- There is one row for each bin. -/
theorem length_rows (b : Binning) (column : String) (values : List Float) :
    (b.rows column values).length = b.count := by
  unfold rows
  rw [List.length_map, List.length_zipIdx, length_frequencies]

/-- Each row is that of its own bin, with some count. -/
theorem getElem_rows {b : Binning} {column : String} {values : List Float} {i : Nat}
    (h : i < (b.rows column values).length) :
    ∃ n, (b.rows column values)[i] = b.row column i n := by
  refine ⟨(b.frequencies values)[i]?.getD 0, ?_⟩
  unfold rows at h ⊢
  rw [List.length_map, List.length_zipIdx] at h
  rw [List.getElem_map, List.getElem_zipIdx, Nat.zero_add, List.getElem?_eq_getElem h]
  rfl

end Binning

namespace Table

/-- The binning of a column for some rows. -/
def binning (t : Table) (name : String) (bins : Nat) (records : List Record) : Binning :=
  .ofValues bins (t.numbersAt name records)

/-- The rows of a histogram of a column: one for each bin, or none if there are no values. -/
def binRows (t : Table) (name : String) (bins : Nat) (records : List Record) : List Row :=
  if t.numbersAt name records = [] then []
  else (t.binning name bins records).rows name (t.numbersAt name records)

/-- Each row of a histogram is that of its own bin of the values, with some count. -/
theorem getElem_binRows {t : Table} {name : String} {bins : Nat} {records : List Record} {i : Nat}
    (h : i < (t.binRows name bins records).length) :
    i < (t.binning name bins records).count ∧
      ∃ n, (t.binRows name bins records)[i] = (t.binning name bins records).row name i n := by
  unfold binRows at h ⊢
  split
  · rename_i hempty
    rw [if_pos hempty] at h
    cases h
  · rename_i hempty
    rw [if_neg hempty] at h
    refine ⟨?_, Binning.getElem_rows h⟩
    rw [Binning.length_rows] at h
    exact h

/-- A numeric column of a well typed table can be read by numbers. -/
structure Numeric (t : Table) (name : String) (ref : ColumnRef) : Prop where
  /-- It is the column of that name. -/
  found : t.column? name = some ref
  /-- Its cells in the rows of the table are nulls or numbers. -/
  number : ∀ r ∈ t.records, (ref.read r).isNull ∨ (ref.read r).asNumber?.isSome

/-- A column of a well-typed table that the catalog calls numeric holds numbers. -/
theorem numeric_of_dtype {t : Table} (ht : t.isWellTyped) {name : String} {dtype : DType}
    (hdtype : t.catalog.dtypeOf name = some dtype) (hnumeric : dtype.isNumeric) :
    ∃ ref, t.Numeric name ref := by
  rw [catalog_dtypeOf, Option.map_eq_some_iff] at hdtype
  obtain ⟨ref, href, rfl⟩ := hdtype
  exact ⟨ref, href, fun r hr => read_numeric ht href hnumeric hr⟩

/-- The numbers under a name are those that its column reads as numbers. -/
theorem numbersAt_of_column? {t : Table} {name : String} {ref : ColumnRef}
    (h : t.column? name = some ref) (records : List Record) :
    t.numbersAt name records = records.filterMap fun r => (ref.read r).asNumber? := by
  unfold numbersAt
  rw [readAt_of_column? h]

/-- There is one number for each row that has a value. -/
theorem length_numbersAt {t : Table} {name : String} {ref : ColumnRef} {records : List Record}
    (hfound : t.column? name = some ref)
    (h : ∀ r ∈ records, (ref.read r).isNull ∨ (ref.read r).asNumber?.isSome) :
    (t.numbersAt name records).length = (t.withValue name records).length := by
  rw [numbersAt_of_column? hfound, length_filterMap_asNumber? h]
  unfold withValue
  rw [readAt_of_column? hfound]

/-- A histogram has as many rows as bins were asked for, and none where there are no numbers. -/
theorem length_binRows (t : Table) (name : String) (bins : Nat) (records : List Record) :
    (t.binRows name bins records).length = if t.numbersAt name records = [] then 0 else bins := by
  unfold binRows
  split
  · rfl
  · exact Binning.length_rows _ _ _

/-- There are bins only if some row has a value. -/
theorem binRows_eq_nil_iff {t : Table} {name : String} {ref : ColumnRef} (h : t.Numeric name ref)
    {bins : Nat} (hpos : 1 ≤ bins) {records : List Record}
    (hrecords : ∀ r ∈ records, r ∈ t.records) :
    t.binRows name bins records = [] ↔ t.withValue name records = [] := by
  have hlength := length_numbersAt h.found fun r hr => h.number r (hrecords r hr)
  rw [← List.length_eq_zero_iff, length_binRows,
    ← List.length_eq_zero_iff (l := t.withValue name records), ← hlength, List.length_eq_zero_iff]
  split
  · rename_i hempty
    exact ⟨fun _ => hempty, fun _ => rfl⟩
  · rename_i hempty
    exact ⟨fun hzero => absurd hzero (Nat.one_le_iff_ne_zero.1 hpos),
      fun hnil => absurd hnil hempty⟩

/-- The result of a histogram of a column. -/
def histogramResult (t : Table) (name : String) (bins : Nat) (records : List Record) : ResultSet :=
  ⟨[name, binStartKey, binEndKey, histogramCountKey name], t.binRows name bins records⟩

/-- An answer that is not sorted shows all bins if they are within its limit. -/
theorem answer_histogramResult {request : Request} (hsort : request.sortBy = []) {bins : Nat}
    (hlimit : bins ≤ request.limit) (t : Table) (name : String) (records : List Record) :
    ∃ response, answer request (t.histogramResult name bins records) = .ok response ∧
      response.rows = t.binRows name bins records := by
  have hlength : (t.histogramResult name bins records).rows.length ≤ bins := by
    unfold histogramResult
    rw [length_binRows]
    split <;> omega
  exact ⟨_, answer_of_unsorted hsort _, limitRows_of_length_le (hlength.trans hlimit)⟩

/-- The result is written from the numbers of the column, if there are any. -/
theorem histogramResult_eq {t : Table} {name : String} {bins : Nat} {records : List Record}
    {values : List Float} (h : t.numbersAt name records = values) :
    (if values.isEmpty then pure ⟨[name, binStartKey, binEndKey, histogramCountKey name], []⟩
      else pure ⟨[name, binStartKey, binEndKey, histogramCountKey name],
        (Binning.ofValues bins values).rows name values⟩ : Except QueryError ResultSet) =
      .ok (t.histogramResult name bins records) := by
  unfold histogramResult binRows binning
  rw [h]
  cases values with
  | nil => rfl
  | cons value rest =>
    rw [if_neg (List.cons_ne_nil value rest)]
    rfl

/-- A histogram is of the column of the first aggregate. It has a result exactly if that column is
there and can be binned. -/
theorem histogram_eq_ok_iff {t : Table} {request : Request} {selected : List Record}
    {result : ResultSet} :
    t.histogram request selected = .ok result ↔
      ∃ a rest ref, request.aggregates = a :: rest ∧ t.column? a.column = some ref ∧
        (∀ r ∈ selected, (ref.read r).isNull ∨ (ref.read r).asNumber?.isSome) ∧
        result = t.histogramResult a.column (max 1 (request.bins.getD defaultBins)) selected := by
  unfold histogram
  cases request.aggregates with
  | nil =>
    constructor
    · intro h
      cases h
    · rintro ⟨a, rest, ref, haggregates, -⟩
      cases haggregates
  | cons a rest =>
    simp only
    rw [bind_eq_ok]
    constructor
    · rintro ⟨ref, hcolumn, h⟩
      obtain ⟨values, hvalues, h⟩ := bind_eq_ok.1 h
      have hfound := column_eq_ok.1 hcolumn
      have hread := readable_of_numbers hvalues
      rw [numbers_eq_ok hread] at hvalues
      cases hvalues
      have hresult := (histogramResult_eq (numbersAt_of_column? hfound selected)).symm.trans h
      exact ⟨a, rest, ref, rfl, hfound, hread, (Except.ok.inj hresult).symm⟩
    · rintro ⟨a', rest', ref, haggregates, hfound, hread, rfl⟩
      cases haggregates
      exact ⟨ref, column_eq_ok.2 hfound, bind_eq_ok.2
        ⟨_, numbers_eq_ok hread, histogramResult_eq (numbersAt_of_column? hfound selected)⟩⟩

/-- The result of a request for a histogram is that of a column that can be binned. -/
theorem eq_histogramResult {t : Table} {request : Request} (hhistogram : request.isHistogram)
    {result : ResultSet} (h : t.result request = .ok result) :
    ∃ a rest ref, request.aggregates = a :: rest ∧ t.column? a.column = some ref ∧
      (∀ r ∈ t.selection request.filters, (ref.read r).isNull ∨ (ref.read r).asNumber?.isSome) ∧
      result = t.histogramResult a.column (max 1 (request.bins.getD defaultBins))
        (t.selection request.filters) := by
  obtain ⟨pairs, hpairs, -⟩ := bind_eq_ok.1 h
  rw [result_of_known fun f hf => mem_names_of_filterColumns hpairs hf, if_pos hhistogram] at h
  exact histogram_eq_ok_iff.1 h

/-- A histogram of a numeric column has a result. -/
theorem result_histogram {t : Table} {request : Request} (hhistogram : request.isHistogram)
    (hfilters : ∀ f ∈ request.filters, f.column ∈ t.names) {column : String} {bins : Nat}
    (haggregates : request.aggregates = [⟨column, .count⟩]) (hbins : request.bins = some bins)
    (hpos : 1 ≤ bins) {ref : ColumnRef} (h : t.Numeric column ref) :
    t.result request = .ok (t.histogramResult column bins (t.selection request.filters)) := by
  rw [result_of_known hfilters, if_pos hhistogram, histogram_eq_ok_iff]
  refine ⟨_, _, ref, haggregates, h.found,
    fun r hr => h.number r (mem_records_of_selection hr), ?_⟩
  rw [hbins, Option.getD_some, Nat.max_eq_right hpos]

/-- A histogram of a numeric column runs, and its rows are those of the first bins, as many as the
limit lets pass; there are none only if no selected row has a value. -/
theorem run_histogram {t : Table} {request : Request} (hhistogram : request.isHistogram)
    (hsort : request.sortBy = []) (hfilters : ∀ f ∈ request.filters, f.column ∈ t.names)
    {column : String} {bins : Nat} (haggregates : request.aggregates = [⟨column, .count⟩])
    (hbins : request.bins = some bins) (hpos : 1 ≤ bins) {ref : ColumnRef}
    (h : t.Numeric column ref) :
    ∃ response, t.run request = .ok response ∧
      (response.rows = [] ↔ t.withValue column (t.selection request.filters) = []) ∧
      ∀ i (hi : i < response.rows.length),
        i < (t.binning column bins (t.selection request.filters)).count ∧
        ∃ n, response.rows[i] =
          (t.binning column bins (t.selection request.filters)).row column i n := by
  have hresult := result_histogram hhistogram hfilters haggregates hbins hpos h
  have hanswer := answer_of_unsorted hsort
    (t.histogramResult column bins (t.selection request.filters))
  refine ⟨_, run_eq_ok.2 ⟨_, hresult, hanswer⟩, (answer_rows_eq_nil_iff hanswer).trans
    (binRows_eq_nil_iff h hpos fun r hr => mem_records_of_selection hr), fun i hi => ?_⟩
  obtain ⟨hi', heq⟩ := getElem_limitRows hi
  rw [heq]
  exact getElem_binRows hi'

end Table

end Chartboard
