import Chartboard.Proofs.Ledger.FirstKeys
import Chartboard.Proofs.Query.KeyedRows

/-!
# Groups in the order of their first rows

The result of a request that aggregates is one row for each tuple of cells that selected rows have
under the grouping columns. The tuples stand in the order in which they first come, and the
aggregates of a row are those of all selected rows with its tuple. Without grouping columns there is
one tuple, the empty one, as soon as some row is selected.
-/

namespace Chartboard

open Json (Value)
open Outcome

namespace Table

variable {t : Table} {request : Request} {keyRefs : List ColumnRef}
  {measures : List (ColumnRef × Aggregate)}

/-! ## Rows of tuples -/

/-- The cells of a row under some names. -/
def cellsAt (t : Table) (names : List String) (record : Record) : List Value :=
  names.map fun name => t.readAt name record

/-- The row of a group: the cells under the grouping columns, and then the aggregates of the rows of
the group, which are written later. -/
def rowOf (t : Table) (request : Request) (cells : List Value) (members : List Record) : Row :=
  Ledger.ofList (request.groupBy.zip cells ++
    request.aggregates.map fun a => (a.key, t.aggregated a members))

open scoped Classical in
/-- The rows of all groups of the selected rows, in the order in which the groups first come. -/
noncomputable def groupRows (t : Table) (request : Request) : List Row :=
  ((t.selection request.filters).map (t.cellsAt request.groupBy)).eraseDups.map fun cells =>
    t.rowOf request cells <|
      (t.selection request.filters).filter fun r => t.cellsAt request.groupBy r = cells

/-- The row of a group is that of the cells of its first record. -/
theorem groupRow_eq_rowOf (first : Record) (others : List Record) :
    t.groupRow request first others =
      t.rowOf request (t.cellsAt request.groupBy first) (first :: others) := by
  unfold groupRow rowOf cellsAt
  rw [List.map_prod_left_eq_zip]
  rfl

/-! ## Texts of tuples -/

/-- Records are grouped by the text of their cells under the group columns. -/
theorem recordText_eq {names : List String} (hkeys : names.mapM t.column = .ok keyRefs)
    (record : Record) : recordText keyRefs record = groupText (t.cellsAt names record) := by
  unfold recordText
  rw [read_keys hkeys]
  rfl

/-- The cells of the rows of a well typed table are scalar. -/
theorem isScalar_of_mem_cellsAt (hwell : t.isWellTyped) {names : List String}
    (hkeys : names.mapM t.column = .ok keyRefs) {record : Record} (hrecord : record ∈ t.records)
    {v : Value} (hv : v ∈ t.cellsAt names record) : v.isScalar := by
  obtain ⟨name, hname, rfl⟩ := List.mem_map.1 hv
  obtain ⟨ref, -, href⟩ := mapM_ok_mem hkeys hname
  obtain ⟨kind, hkind⟩ := exists_kind hwell href
  exact CellKind.isScalar_of_holds (hkind record hrecord)

/-- The texts of two tuples of a well typed table are the same only if the tuples are. -/
theorem cellsAt_eq_of_groupText (hwell : t.isWellTyped) {names : List String}
    (hkeys : names.mapM t.column = .ok keyRefs) {r r' : Record} (hr : r ∈ t.records)
    (hr' : r' ∈ t.records)
    (htext : groupText (t.cellsAt names r) = groupText (t.cellsAt names r')) :
    t.cellsAt names r = t.cellsAt names r' := by
  have hlength : (t.cellsAt names r).length = (t.cellsAt names r').length := by
    unfold cellsAt
    rw [List.length_map, List.length_map]
  exact groupText_inj hlength (fun _ hv => isScalar_of_mem_cellsAt hwell hkeys hr hv)
    (fun _ hv => isScalar_of_mem_cellsAt hwell hkeys hr' hv) htext

/-! ## Results -/

/-- The groups come in the order of the first rows with their texts. -/
theorem keys_groups (records : List Record) :
    (groups keyRefs measures records).keys = (records.map (recordText keyRefs)).eraseDups :=
  Ledger.keys_foldl (fun _ _ => ⟨_, rfl⟩) records

open scoped Classical in
/-- A tuple that has come is that of some first row. -/
theorem exists_members {names : List String} {records : List Record} {cells : List Value}
    (h : cells ∈ (records.map (t.cellsAt names)).eraseDups) :
    ∃ first others, (records.filter fun r => t.cellsAt names r = cells) = first :: others ∧
      first ∈ records ∧ t.cellsAt names first = cells := by
  obtain ⟨r, hr, rfl⟩ := List.mem_map.1 (List.mem_eraseDups.1 h)
  cases hmembers : records.filter fun r' => t.cellsAt names r' = t.cellsAt names r with
  | nil => exact absurd (decide_eq_true rfl) (List.filter_eq_nil_iff.1 hmembers r hr)
  | cons first others =>
    have hfirst : first ∈ first :: others := List.mem_cons_self
    rw [← hmembers, List.mem_filter, decide_eq_true_iff] at hfirst
    exact ⟨first, others, rfl, hfirst⟩

open scoped Classical in
/-- The rows of the groups of some selected rows are those of their tuples. -/
theorem rows_groups (hwell : t.isWellTyped) (hkeys : request.groupBy.mapM t.column = .ok keyRefs)
    (hmeasures : t.measures request = .ok measures) :
    ((groups keyRefs measures (t.selection request.filters)).entries.map fun e =>
      e.2.row request.groupBy measures) = t.groupRows request := by
  let selected := t.selection request.filters
  let tuples := selected.map (t.cellsAt request.groupBy)
  have hrecords : ∀ r ∈ selected, r ∈ t.records := fun r hr => mem_records_of_selection hr
  have htexts : selected.map (recordText keyRefs) = tuples.map groupText := by
    rw [List.map_map]
    exact List.map_congr_left fun r _ => recordText_eq hkeys r
  have hapart : ∀ cells ∈ tuples, ∀ cells' ∈ tuples,
      groupText cells = groupText cells' → cells = cells' := by
    intro cells hcells cells' hcells' htext
    obtain ⟨r, hr, rfl⟩ := List.mem_map.1 hcells
    obtain ⟨r', hr', rfl⟩ := List.mem_map.1 hcells'
    exact cellsAt_eq_of_groupText hwell hkeys (hrecords r hr) (hrecords r' hr') htext
  have hentries := Ledger.map_entries_eq (groups keyRefs measures selected)
    fun _ g => g.row request.groupBy measures
  refine hentries.trans ?_
  rw [keys_groups, htexts, eraseDups_map hapart, List.filterMap_map, groupRows,
    ← List.filterMap_eq_map]
  -- Group by group: the text of a tuple picks the rows that have the tuple.
  refine List.filterMap_congr fun cells hcells => ?_
  obtain ⟨first, others, hmembers, hfirst, rfl⟩ := exists_members hcells
  have hsame : (selected.filter fun r =>
      recordText keyRefs r = groupText (t.cellsAt request.groupBy first)) = first :: others := by
    rw [← hmembers]
    refine List.filter_congr fun r hr => decide_eq_decide.2 ?_
    rw [recordText_eq hkeys]
    exact ⟨cellsAt_eq_of_groupText hwell hkeys (hrecords r hr) (hrecords first hfirst),
      congrArg groupText⟩
  rw [Function.comp_apply, Function.comp_apply, get?_groups, hsame, hmembers, Option.map_some,
    row_eq_groupRow hkeys hmeasures, groupRow_eq_rowOf]

/-- A group row is that of a first row and the others with its tuple. -/
theorem exists_groupRow_of_mem {row : Row} (h : row ∈ t.groupRows request) :
    ∃ first others, row = t.groupRow request first others := by
  obtain ⟨cells, hcells, rfl⟩ := List.mem_map.1 h
  obtain ⟨first, others, hmembers, -, rfl⟩ := exists_members hcells
  exact ⟨first, others, by rw [hmembers, groupRow_eq_rowOf]⟩

open scoped Classical in
/-- Without grouping columns all selected rows are one group. -/
theorem groupRows_of_ungrouped (hgroup : request.groupBy = []) :
    t.groupRows request = if (t.selection request.filters).isEmpty then [] else
      [t.rowOf request [] (t.selection request.filters)] := by
  have hcells : t.cellsAt request.groupBy = fun _ => [] := by
    funext record
    rw [hgroup]
    rfl
  unfold groupRows
  rw [hcells, eraseDups_map_const]
  split
  · rfl
  · simp only [List.map_singleton, decide_true, List.filter_true]

/-- The result of a request that aggregates are the rows of its groups. -/
theorem rows_result (hwell : t.isWellTyped) (hhistogram : request.isHistogram = false)
    (haggregates : request.aggregates ≠ []) {result : ResultSet}
    (h : t.result request = .ok result) : result.rows = t.groupRows request := by
  obtain ⟨pairs, hpairs, -⟩ := bind_eq_ok.1 h
  rw [result_of_known fun f hf => mem_names_of_filterColumns hpairs hf,
    if_neg (by rw [hhistogram]; decide)] at h
  by_cases hgroup : request.groupBy = []
  · rw [if_neg (by simp [hgroup]), if_pos (by simp [haggregates])] at h
    obtain ⟨measures, hmeasures, hpure⟩ := bind_eq_ok.1 h
    rw [pure_eq_ok] at hpure
    rw [← hpure, groupRows_of_ungrouped hgroup, rowOf, hgroup]
    simp only [cells_measures hmeasures]
    rfl
  · rw [if_pos (by simp [hgroup])] at h
    obtain ⟨keyRefs, measures, hkeys, hmeasures, rfl⟩ := grouped_eq_ok.1 h
    exact rows_groups hwell hkeys hmeasures

end Table

end Chartboard
