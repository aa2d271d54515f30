import Chartboard.Proofs.Query.Binned
import Chartboard.Proofs.Query.GroupRows

/-!
# Filters on a clicked group

A row of an answer stands for a group, and its cell under the grouping column can be sent back as a
filter. The filtered request answers with this row alone exactly when no other row of the table
holds a value that the filter takes for that of the group. If an aggregate is written under the
name of the grouping column, the cell is no value of the column, and the filtered request answers
with the row exactly when what it keeps happens to be one group with the same aggregates.
-/

namespace Chartboard

open Json (Value)
open Outcome

/-- The same request with one more filter. -/
def Request.narrow (request : Request) (f : Filter) : Request :=
  { request with filters := request.filters ++ [f] }

namespace Table

variable {t : Table} {request : Request} {g : String}

/-- The rows that one more filter keeps. -/
def kept (t : Table) (request : Request) (f : Filter) : List Record :=
  (t.selection request.filters).filter fun record =>
    (t.readAt f.column record).matchesFilter f.value

/-- Some rows hold one value in a column, and their row as a group is the given one. -/
def FormsRow (t : Table) (request : Request) (g : String) (records : List Record) (row : Row) :
    Prop :=
  ∃ first others, records = first :: others ∧
    (∀ record ∈ others, t.readAt g record = t.readAt g first) ∧
    row = t.groupRow request first others

/-- A filter on the cell of a row singles out the group of the row. -/
def Isolates (t : Table) (request : Request) (g : String) (row : Row) (v : Value) : Prop :=
  if g ∈ request.aggregates.map Aggregate.key then
    t.FormsRow request g (t.kept request ⟨g, v⟩) row
  else ∀ record ∈ t.selection request.filters, ¬ Alias v (t.readAt g record)

/-! ## Groups of one column -/

/-- One more filter keeps, of the records that were selected, those that pass it. -/
theorem selection_narrow {f : Filter} (h : f.column ∈ t.names) :
    t.selection (request.narrow f).filters = t.kept request f := by
  show t.selection (request.filters ++ [f]) = _
  rw [selection_append]
  unfold kept
  apply List.filter_congr
  intro record _
  exact agrees_singleton h record

/-- Looking up one name finds its column alone. -/
theorem columns_singleton {keyRefs : List ColumnRef} (h : [g].mapM t.column = .ok keyRefs) :
    ∃ ref, keyRefs = [ref] ∧ t.column g = .ok ref := by
  rw [mapM_eq_ok, List.forall₂_cons_left_iff] at h
  obtain ⟨ref, rest, href, hrest, rfl⟩ := h
  rw [List.forall₂_nil_left_iff] at hrest
  exact ⟨ref, by rw [hrest], href⟩

/-- A column that is found is found as a list of one. -/
theorem columns_of_column {ref : ColumnRef} (h : t.column g = .ok ref) :
    [g].mapM t.column = .ok [ref] :=
  mapM_eq_ok.2 (List.Forall₂.cons h .nil)

/-! ## Values of one column -/

/-- What a column of a well typed table holds is of one kind. -/
theorem exists_kind (h : t.isWellTyped) {ref : ColumnRef} (href : t.column g = .ok ref) :
    ∃ kind : CellKind, ∀ record ∈ t.records, kind.holds (t.readAt g record) := by
  refine ⟨ref.type.kind, ?_⟩
  intro record hrecord
  rw [← readAt_eq href]
  exact StorageType.holds_read (admits_of_column? h (column_eq_ok.1 href) hrecord)

/-- Rows are of one group exactly where their cells are the same value. -/
theorem recordText_eq_iff (h : t.isWellTyped) {ref : ColumnRef} (href : t.column g = .ok ref)
    {r r' : Record} (hr : r ∈ t.records) (hr' : r' ∈ t.records) :
    recordText [ref] r = recordText [ref] r' ↔ t.readAt g r = t.readAt g r' := by
  obtain ⟨kind, hkind⟩ := exists_kind h href
  unfold recordText
  simp only [List.map_cons, List.map_nil, readAt_eq href]
  constructor
  · intro htext
    have hkeys := @groupText_inj [t.readAt g r] [t.readAt g r'] rfl
      (by simpa using CellKind.isScalar_of_holds (hkind r hr))
      (by simpa using CellKind.isScalar_of_holds (hkind r' hr')) htext
    simpa using hkeys
  · intro hvalue
    rw [hvalue]

/-- The groups of some rows make up one row exactly where the rows form it. -/
theorem groups_rows_eq_singleton_iff (hwell : t.isWellTyped) (hgroup : request.groupBy = [g])
    {ref : ColumnRef} (href : t.column g = .ok ref) {measures : List (ColumnRef × Aggregate)}
    (hmeasures : t.measures request = .ok measures) {records : List Record}
    (hrecords : ∀ r ∈ records, r ∈ t.records) {row : Row} :
    ((groups [ref] measures records).entries.map fun (_, g) => g.row request.groupBy measures) =
        [row] ↔ t.FormsRow request g records row := by
  have hkeys : request.groupBy.mapM t.column = .ok [ref] := hgroup ▸ columns_of_column href
  rw [List.map_eq_singleton_iff]
  constructor
  · rintro ⟨⟨text, group⟩, hentries, rfl⟩
    obtain ⟨first, others, rfl, htexts, rfl⟩ := groups_entries_eq_singleton_iff.1 hentries
    refine ⟨first, others, rfl, ?_, row_eq_groupRow hkeys hmeasures first others⟩
    intro r hr
    rw [← recordText_eq_iff hwell href (hrecords r (List.mem_cons_of_mem _ hr))
      (hrecords first List.mem_cons_self)]
    rw [htexts r (List.mem_cons_of_mem _ hr), htexts first List.mem_cons_self]
  · rintro ⟨first, others, rfl, hvalues, rfl⟩
    refine ⟨(recordText [ref] first, Group.ofRecords [ref] measures first others), ?_,
      row_eq_groupRow hkeys hmeasures first others⟩
    refine groups_entries_eq_singleton_iff.2 ⟨first, others, rfl, ?_, rfl⟩
    intro r hr
    rw [recordText_eq_iff hwell href (hrecords r hr) (hrecords first List.mem_cons_self)]
    rcases List.mem_cons.1 hr with rfl | hr
    · rfl
    · exact hvalues r hr

/-! ## The filtered request -/

/-- The filtered request answers with a row alone exactly where the rows that it keeps form it. -/
theorem run_narrow_iff (hwell : t.isWellTyped) (hgroup : request.groupBy = [g])
    (hlimit : request.limit = 0) (hhistogram : request.isHistogram = false) {response : Response}
    (hrun : t.run request = .ok response) {row : Row} {v : Value} :
    (∃ answered, t.run (request.narrow ⟨g, v⟩) = .ok answered ∧ answered.rows = [row]) ↔
      t.FormsRow request g (t.kept request ⟨g, v⟩) row := by
  have hne : request.groupBy ≠ [] := by
    rw [hgroup]
    exact List.cons_ne_nil g []
  obtain ⟨keyRefs, measures, hfilters, hkeys, hmeasures, -⟩ :=
    (run_grouped_eq_ok hne hhistogram).1 hrun
  obtain ⟨ref, rfl, href⟩ := columns_singleton (hgroup ▸ hkeys)
  have hname := mem_names_of_column href
  have hknown : ∀ f ∈ (request.narrow ⟨g, v⟩).filters, f.column ∈ t.names := by
    intro f hf
    rcases List.mem_append.1 hf with hf | hf
    · exact hfilters f hf
    · rw [List.mem_singleton.1 hf]
      exact hname
  have hselected : ∀ r ∈ t.kept request ⟨g, v⟩, r ∈ t.records := by
    intro r hr
    exact mem_records_of_selection (List.mem_filter.1 hr).1
  have hrows := @groups_rows_eq_singleton_iff t request g hwell hgroup ref href measures
    hmeasures _ hselected row
  have hrun := @run_grouped t (request.narrow ⟨g, v⟩) hne hhistogram hknown _ _ hkeys hmeasures
  rw [hrun, ← hrows, ← @selection_narrow t request ⟨g, v⟩ hname]
  constructor
  · rintro ⟨answered, hok, hanswered⟩
    exact (answer_rows_eq_singleton_iff hok hlimit).1 hanswered
  · intro hresult
    have hone : [row].length ≤ StableSort.insertionLength := by
      rw [List.length_singleton]
      decide
    rw [← hresult] at hone
    obtain ⟨answered, hok⟩ := @answer_total (request.narrow ⟨g, v⟩)
      ⟨request.groupBy ++ measures.map (·.2.key), _⟩ hone
    exact ⟨answered, hok, (answer_rows_eq_singleton_iff hok hlimit).2 hresult⟩

/-- A row of an answer is that of the rows which have its text. -/
theorem exists_group_of_mem (hgroup : request.groupBy = [g])
    (hhistogram : request.isHistogram = false) {response : Response}
    (hrun : t.run request = .ok response) {row : Row} (hrow : row ∈ response.rows) :
    ∃ ref first others, t.column g = .ok ref ∧
      (t.selection request.filters).filter (fun r => recordText [ref] r = recordText [ref] first) =
        first :: others ∧
      row = t.groupRow request first others := by
  have hne : request.groupBy ≠ [] := by
    rw [hgroup]
    exact List.cons_ne_nil g []
  obtain ⟨keyRefs, first, others, hkeys, hmembers, hrow⟩ :=
    exists_group_of_mem_rows hne hhistogram hrun hrow
  obtain ⟨ref, rfl, href⟩ := columns_singleton (hgroup ▸ hkeys)
  exact ⟨ref, first, others, href, hmembers, hrow⟩

/-- A cell that no aggregate overwrites is that of the rows of the group. -/
theorem get?_groupRow (hgroup : request.groupBy = [g])
    (hkey : g ∉ request.aggregates.map Aggregate.key) (first : Record) (others : List Record) :
    (t.groupRow request first others).get? g = some (t.readAt g first) := by
  refine get?_groupRow_key ?_ hkey first others
  rw [hgroup]
  exact List.mem_singleton_self g

section Clicked

variable (hwell : t.isWellTyped) {ref : ColumnRef} (href : t.column g = .ok ref)
  {first : Record} (hfirst : first ∈ t.selection request.filters)

include hwell href hfirst

/-- A filter on the cell of a row keeps the rows with this cell and with aliases of it. -/
theorem mem_kept_iff {record : Record} (hrecord : record ∈ t.selection request.filters) :
    record ∈ t.kept request ⟨g, t.readAt g first⟩ ↔
      t.readAt g record = t.readAt g first ∨ Alias (t.readAt g first) (t.readAt g record) := by
  obtain ⟨kind, hkind⟩ := exists_kind hwell href
  unfold kept
  rw [List.mem_filter, and_iff_right hrecord]
  exact matchesFilter_iff (hkind first (mem_records_of_selection hfirst))
    (hkind record (mem_records_of_selection hrecord))

/-- Without aliases it keeps the group of the row. -/
theorem kept_eq_group
    (hnone : ∀ record ∈ t.selection request.filters,
      ¬ Alias (t.readAt g first) (t.readAt g record)) :
    t.kept request ⟨g, t.readAt g first⟩ =
      (t.selection request.filters).filter fun r =>
        recordText [ref] r = recordText [ref] first := by
  unfold kept
  apply List.filter_congr
  intro record hrecord
  have hmem := mem_kept_iff hwell href hfirst hrecord
  have htext := recordText_eq_iff hwell href (mem_records_of_selection hrecord)
    (mem_records_of_selection hfirst)
  unfold kept at hmem
  rw [List.mem_filter, and_iff_right hrecord, or_iff_left (hnone record hrecord)] at hmem
  rw [Bool.eq_iff_iff, decide_eq_true_eq, htext, hmem]

/-- Where the rows that it keeps have one value, the row has no alias. -/
theorem not_alias_of_one_value {head : Record}
    (hone : ∀ r ∈ t.kept request ⟨g, t.readAt g first⟩, t.readAt g r = t.readAt g head)
    {record : Record} (hrecord : record ∈ t.selection request.filters) :
    ¬ Alias (t.readAt g first) (t.readAt g record) := by
  intro halias
  have hsame := hone record ((mem_kept_iff hwell href hfirst hrecord).2 (Or.inr halias))
  have hown := hone first ((mem_kept_iff hwell href hfirst hfirst).2 (Or.inl rfl))
  rw [hsame, hown] at halias
  exact not_alias_self _ halias

/-- The rows that it keeps form the row of the group exactly where there is no alias. -/
theorem formsRow_kept_iff {others : List Record}
    (hmembers : (t.selection request.filters).filter
      (fun r => recordText [ref] r = recordText [ref] first) = first :: others) :
    t.FormsRow request g (t.kept request ⟨g, t.readAt g first⟩)
        (t.groupRow request first others) ↔
      ∀ record ∈ t.selection request.filters,
        ¬ Alias (t.readAt g first) (t.readAt g record) := by
  constructor
  · intro h record hrecord
    obtain ⟨head, rest, hkept, hvalues, -⟩ := h
    have hone : ∀ r ∈ t.kept request ⟨g, t.readAt g first⟩, t.readAt g r = t.readAt g head := by
      intro r hr
      rw [hkept] at hr
      rcases List.mem_cons.1 hr with rfl | hr
      · rfl
      · exact hvalues r hr
    exact not_alias_of_one_value hwell href hfirst hone hrecord
  · intro hnone
    refine ⟨first, others, (kept_eq_group hwell href hfirst hnone).trans hmembers, ?_, rfl⟩
    intro r hr
    have hmem : r ∈ first :: others := List.mem_cons_of_mem _ hr
    rw [← hmembers] at hmem
    obtain ⟨hselected, hsame⟩ := List.mem_filter.1 hmem
    exact (recordText_eq_iff hwell href (mem_records_of_selection hselected)
      (mem_records_of_selection hfirst)).1 (of_decide_eq_true hsame)

end Clicked

/-- The request filtered by the cell of a row answers with this row alone exactly where the filter
isolates its group. -/
theorem row_alone_iff_isolates (hwell : t.isWellTyped) (hgroup : request.groupBy = [g])
    (hlimit : request.limit = 0) (hhistogram : request.isHistogram = false) {response : Response}
    (hrun : t.run request = .ok response) {row : Row} (hrow : row ∈ response.rows) {v : Value}
    (hcell : row.get? g = some v) :
    (∃ answered, t.run (request.narrow ⟨g, v⟩) = .ok answered ∧ answered.rows = [row]) ↔
      t.Isolates request g row v := by
  rw [run_narrow_iff hwell hgroup hlimit hhistogram hrun]
  unfold Isolates
  split
  · exact Iff.rfl
  · rename_i hkey
    obtain ⟨ref, first, others, href, hmembers, rfl⟩ :=
      exists_group_of_mem hgroup hhistogram hrun hrow
    rw [get?_groupRow hgroup hkey, Option.some.injEq] at hcell
    subst hcell
    have hfirst : first ∈ t.selection request.filters := by
      have hmem : first ∈ first :: others := List.mem_cons_self
      rw [← hmembers] at hmem
      exact (List.mem_filter.1 hmem).1
    exact formsRow_kept_iff hwell href hfirst hmembers

/-! ## Two tables -/

/-- Three sales in two regions. -/
def regionTable : Table where
  columns := [⟨"region", .text⟩]
  records := [[.text "East"], [.text "West"], [.text "East"]]

/-- The number of sales in each region. -/
def byRegion : Request where
  groupBy := ["region"]
  aggregates := [⟨"region", .count⟩]

/-- The row of the region with two sales. -/
def eastRow : Row :=
  .ofList [("region", .string "East"), ("region_count", .int 2)]

/-- The counts of both regions. -/
theorem run_byRegion : regionTable.run byRegion = .ok {
    rows := [eastRow, .ofList [("region", .string "West"), ("region_count", .int 1)]]
    totalRows := some 2
    columns := ["region", "region_count"] } :=
  rfl

/-- The filter by the region of the first row isolates it. -/
theorem isolates_eastRow :
    regionTable.Isolates byRegion "region" eastRow (.string "East") := by
  unfold Isolates
  rw [if_neg (by decide)]
  intro record _
  exact not_alias_text (by decide) _

/-- Cross-filtering the regions by the first row leaves that row alone. -/
theorem eastRow_alone :
    regionTable.isWellTyped ∧ eastRow.get? "region" = some (.string "East") ∧
      regionTable.Isolates byRegion "region" eastRow (.string "East") ∧
      ∃ answered, regionTable.run (byRegion.narrow ⟨"region", .string "East"⟩) = .ok answered ∧
        answered.rows = [eastRow] :=
  ⟨by decide, rfl, isolates_eastRow,
    (row_alone_iff_isolates (by decide) rfl rfl rfl run_byRegion List.mem_cons_self rfl).2
      isolates_eastRow⟩

/-- Two neighbouring integers with one double. -/
def largeTable : Table where
  columns := [⟨"id", .int 64⟩]
  records := [[.int 9007199254740992], [.int 9007199254740993]]

/-- The number of rows for each integer. -/
def byId : Request where
  groupBy := ["id"]
  aggregates := [⟨"id", .count⟩]

/-- The row of an integer that is there once. -/
def idRow (i : Int) : Row :=
  .ofList [("id", .int i), ("id_count", .int 1)]

/-- A filter on the lesser integer keeps the greater one, which is another group. -/
theorem narrow_byId_keeps_neighbour :
    largeTable.isWellTyped ∧
      largeTable.run byId = .ok {
        rows := [idRow 9007199254740992, idRow 9007199254740993]
        totalRows := some 2
        columns := ["id", "id_count"] } ∧
      (idRow 9007199254740992).get? "id" = some (.int 9007199254740992) ∧
      largeTable.run (byId.narrow ⟨"id", .int 9007199254740992⟩) = .ok {
        rows := [idRow 9007199254740992, idRow 9007199254740993]
        totalRows := some 2
        columns := ["id", "id_count"] } :=
  ⟨by decide, rfl, rfl, rfl⟩

end Table

end Chartboard
