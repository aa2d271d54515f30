import Chartboard.Proofs.Query.Running
import Chartboard.Proofs.Query.Sameness

/-!
# Rows of answers

Every row of an answer to a request for groups is that of one group: some selected rows that have
the same cells under the grouping columns, and all that have these cells. The cell under a grouping
column is that of the rows of the group, unless an aggregate is written over it, and the cell under
the key of an aggregate is what the function makes of the rows.
-/

namespace Chartboard

open Json (Value)
open Outcome

/-- Two aggregates of one function have different keys if their columns are different. -/
theorem Aggregate.key_inj {a b : Aggregate} (h : a.key = b.key)
    (hfunction : a.function = b.function) : a = b := by
  obtain ⟨column, function⟩ := a
  obtain ⟨column', function'⟩ := b
  cases hfunction
  have hchars := congrArg String.toList h
  simp only [key, String.toList_append] at hchars
  have hcolumn := List.append_cancel_right (List.append_cancel_right hchars)
  rw [String.toList_inj.1 hcolumn]

/-- The name of a function is known from its last letter. -/
theorem Aggregation.eq_of_last {f g : Aggregation}
    (h : f.name.toList.getLast? = g.name.toList.getLast?) : f = g := by
  revert h
  cases f <;> cases g <;> decide

/-- Different aggregates have different keys, whatever their columns are called. -/
theorem Aggregate.key_injective : Function.Injective Aggregate.key := by
  intro a b h
  have hlast : ∀ c : Aggregate, c.key.toList.getLast? = c.function.name.toList.getLast? := by
    intro c
    have hname : c.function.name.toList ≠ [] := by cases c.function <;> decide
    rw [key, String.toList_append, List.getLast?_append_of_ne_nil _ hname]
  exact key_inj h (Aggregation.eq_of_last (by rw [← hlast, ← hlast, h]))

namespace Table

variable {t : Table} {request : Request} {keyRefs : List ColumnRef} {first : Record}
  {others : List Record}

/-- What an aggregate makes of some rows. -/
def aggregated (t : Table) (a : Aggregate) (records : List Record) : Value :=
  (Accumulator.ofValues (records.map (t.readAt a.column))).finish a.function

/-! ## Cells -/

/-- A row has a cell for every grouping column and every aggregate, and no others. -/
theorem mem_keys_groupRow {first : Record} {others : List Record} {k : String} :
    k ∈ (t.groupRow request first others).keys ↔
      k ∈ request.groupBy ∨ k ∈ request.aggregates.map Aggregate.key := by
  have hkeys : (request.groupBy.map fun name => (name, t.readAt name first)).map Prod.fst =
      request.groupBy := by
    rw [List.map_map]
    exact List.map_id _
  rw [groupRow, Ledger.mem_keys_ofList, List.map_append, List.mem_append, hkeys, List.map_map]
  exact Iff.rfl

/-- The cell under the key of an aggregate. -/
theorem get?_groupRow_aggregate {a : Aggregate} (ha : a ∈ request.aggregates)
    (hsame : ∀ b ∈ request.aggregates, b.key = a.key → b = a) (first : Record)
    (others : List Record) :
    (t.groupRow request first others).get? a.key = some (t.aggregated a (first :: others)) := by
  rw [groupRow, Ledger.get?_ofList_append, Ledger.get?_ofList_of_agree, Option.some_or]
  · rw [List.map_map]
    exact List.mem_map_of_mem ha
  · intro w hw hkey
    obtain ⟨b, hb, rfl⟩ := List.mem_map.1 hw
    rw [hsame b hb hkey]
    rfl

/-- The cell under a grouping column that no aggregate overwrites. -/
theorem get?_groupRow_key {name : String} (hname : name ∈ request.groupBy)
    (hkey : name ∉ request.aggregates.map Aggregate.key) (first : Record) (others : List Record) :
    (t.groupRow request first others).get? name = some (t.readAt name first) := by
  rw [groupRow, Ledger.get?_ofList_append, Ledger.get?_ofList_of_not_mem, Option.none_or]
  · refine Ledger.get?_ofList_of_agree ?_ fun w hw heq => ?_
    · rw [List.map_map]
      exact List.mem_map_of_mem hname
    · obtain ⟨other, -, rfl⟩ := List.mem_map.1 hw
      rw [← heq]
  · rw [List.map_map]
    exact hkey

/-! ## Groups -/

/-- The first row of a group has its text. -/
theorem recordText_of_members {records : List Record} {text : String}
    (h : (records.filter fun r => recordText keyRefs r = text) = first :: others) :
    recordText keyRefs first = text := by
  have hmem : first ∈ first :: others := List.mem_cons_self
  rw [← h] at hmem
  exact of_decide_eq_true (List.mem_filter.1 hmem).2

/-- A row of an answer is that of the rows which have its text. -/
theorem exists_group_of_mem_rows (hgroup : request.groupBy ≠ [])
    (hhistogram : request.isHistogram = false) {response : Response}
    (hrun : t.run request = .ok response) {row : Row} (hrow : row ∈ response.rows) :
    ∃ keyRefs first others, request.groupBy.mapM t.column = .ok keyRefs ∧
      (t.selection request.filters).filter
        (fun r => recordText keyRefs r = recordText keyRefs first) = first :: others ∧
      row = t.groupRow request first others := by
  obtain ⟨keyRefs, measures, -, hkeys, hmeasures, hanswer⟩ :=
    (run_grouped_eq_ok hgroup hhistogram).1 hrun
  obtain ⟨⟨text, group⟩, hentry, rfl⟩ := List.mem_map.1 (mem_result_of_mem_answer hanswer hrow)
  obtain ⟨first, others, hmembers, rfl⟩ := group_of_mem hentry
  have htext := recordText_of_members hmembers
  subst htext
  exact ⟨keyRefs, first, others, hkeys, hmembers, row_eq_groupRow hkeys hmeasures first others⟩

/-- Rows with the same cells under the grouping columns are of one group. -/
theorem recordText_congr (hkeys : request.groupBy.mapM t.column = .ok keyRefs)
    {first second : Record}
    (h : ∀ name ∈ request.groupBy, t.readAt name first = t.readAt name second) :
    recordText keyRefs first = recordText keyRefs second := by
  rw [recordText, recordText, read_keys hkeys, read_keys hkeys, List.map_congr_left h]

/-- Two rows of an answer differ in a grouping column. -/
theorem rows_differ (hgroup : request.groupBy ≠ []) (hhistogram : request.isHistogram = false)
    (hapart : ∀ name ∈ request.groupBy, name ∉ request.aggregates.map Aggregate.key)
    {response : Response} (hrun : t.run request = .ok response) :
    response.rows.Pairwise fun row other =>
      ∃ name ∈ request.groupBy, row.get? name ≠ other.get? name := by
  obtain ⟨keyRefs, measures, -, hkeys, hmeasures, hanswer⟩ :=
    (run_grouped_eq_ok hgroup hhistogram).1 hrun
  refine pairwise_answer hanswer (fun ⟨name, hname, hne⟩ => ⟨name, hname, hne.symm⟩) ?_
  have htexts := (groups keyRefs measures (t.selection request.filters)).nodup_keys
  rw [List.Nodup, List.pairwise_map] at htexts
  rw [List.pairwise_map]
  refine htexts.imp_of_mem fun {entry other} hentry hother hne => ?_
  obtain ⟨text, group⟩ := entry
  obtain ⟨text', group'⟩ := other
  obtain ⟨first, others, hmembers, rfl⟩ := group_of_mem hentry
  obtain ⟨second, more, hmembers', rfl⟩ := group_of_mem hother
  by_contra hsame
  simp only [not_exists, not_and, not_not] at hsame
  refine hne ?_
  rw [← recordText_of_members hmembers, ← recordText_of_members hmembers']
  refine recordText_congr hkeys fun name hname => ?_
  have hcells := hsame name hname
  rw [row_eq_groupRow hkeys hmeasures, row_eq_groupRow hkeys hmeasures,
    get?_groupRow_key hname (hapart name hname), get?_groupRow_key hname (hapart name hname)]
    at hcells
  exact Option.some.inj hcells

/-- The first row of a group is a row of the table. -/
theorem mem_records_of_members {text : String}
    (h : (t.selection request.filters).filter (fun r => recordText keyRefs r = text) =
      first :: others) : first ∈ t.records := by
  have hmem : first ∈ first :: others := List.mem_cons_self
  rw [← h] at hmem
  exact mem_records_of_selection (List.mem_filter.1 hmem).1

/-- A request for groups that runs groups by columns of the table. -/
theorem groupBy_known_of_run (hgroup : request.groupBy ≠ [])
    (hhistogram : request.isHistogram = false) {response : Response}
    (hrun : t.run request = .ok response) : ∀ name ∈ request.groupBy, name ∈ t.names := by
  obtain ⟨keyRefs, measures, -, hkeys, -, -⟩ := (run_grouped_eq_ok hgroup hhistogram).1 hrun
  intro name hname
  obtain ⟨ref, -, href⟩ := mapM_ok_mem hkeys hname
  exact mem_names_of_column href

/-- The rows of an answer to a request for groups have the cells that it asks for. -/
theorem complete_of_run (hgroup : request.groupBy ≠ []) (hhistogram : request.isHistogram = false)
    {response : Response} (hrun : t.run request = .ok response) :
    Complete request response.rows := by
  obtain ⟨keyRefs, measures, -, hkeys, hmeasures, hanswer⟩ :=
    (run_grouped_eq_ok hgroup hhistogram).1 hrun
  have hgrouped := (@grouped_eq_ok t request (t.selection request.filters) _).2
    ⟨keyRefs, measures, hkeys, hmeasures, rfl⟩
  exact fun row hrow => (grouped_complete hgrouped).2 row (mem_result_of_mem_answer hanswer hrow)

end Table

end Chartboard
