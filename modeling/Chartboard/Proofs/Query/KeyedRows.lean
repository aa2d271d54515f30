import Chartboard.Proofs.Query.CrossFilter

/-!
# Rows by keys

The rows of an answer to a request for the groups of one column belong to different values of that
column. Under the keys of the aggregates stands what the functions make of all selected rows that
hold the value. Under the name of the column stands the value itself, unless an aggregate has this
name for its key: it is written later, and the value is lost.
-/

namespace Chartboard.Table

open Json (Value)
open Outcome

variable {t : Table} {request : Request} {g : String}

open scoped Classical in
/-- The selected rows that hold a value in a column. -/
noncomputable def holding (t : Table) (filters : List Filter) (g : String) (v : Value) :
    List Record :=
  (t.selection filters).filter fun r => t.readAt g r = v

/-- A row of an answer is that of the selected rows which hold a value. -/
structure IsRowOf (t : Table) (request : Request) (g : String) (row : Row) (v : Value) : Prop where
  /-- Some row holds the value. -/
  held : t.holding request.filters g v ≠ []
  /-- The cell under the key of an aggregate is what its function makes of these rows. -/
  aggregate : ∀ a ∈ request.aggregates,
    row.get? a.key = some (t.aggregated a (t.holding request.filters g v))
  /-- The cell under the column is the value exactly if no aggregate of the same name is another
  value. -/
  key : row.get? g = some v ↔ ∀ a ∈ request.aggregates, a.key = g →
    t.aggregated a (t.holding request.filters g v) = v

/-- The rows of a group are those that hold the value of its first row. -/
theorem members_eq_holding (hwell : t.isWellTyped) {ref : ColumnRef} (href : t.column g = .ok ref)
    {filters : List Filter} {first : Record} (hfirst : first ∈ t.records) :
    (t.selection filters).filter (fun r => recordText [ref] r = recordText [ref] first) =
      t.holding filters g (t.readAt g first) := by
  refine List.filter_congr fun r hr => ?_
  exact decide_eq_decide.2 (recordText_eq_iff hwell href (mem_records_of_selection hr) hfirst)

/-- The row of a group is that of the value of its first row. -/
theorem isRowOf_groupRow (hgroup : request.groupBy = [g])
    (hsame : ∀ a ∈ request.aggregates, ∀ b ∈ request.aggregates, b.key = a.key → b = a)
    {first : Record} {others : List Record}
    (hmembers : t.holding request.filters g (t.readAt g first) = first :: others) :
    t.IsRowOf request g (t.groupRow request first others) (t.readAt g first) := by
  have haggregate : ∀ a ∈ request.aggregates, (t.groupRow request first others).get? a.key =
      some (t.aggregated a (first :: others)) :=
    fun a ha => get?_groupRow_aggregate ha (hsame a ha) first others
  refine ⟨?_, ?_, ?_⟩
  · rw [hmembers]
    exact List.cons_ne_nil _ _
  · rw [hmembers]
    exact haggregate
  · rw [hmembers]
    by_cases hkey : g ∈ request.aggregates.map Aggregate.key
    · obtain ⟨a, ha, rfl⟩ := List.mem_map.1 hkey
      rw [haggregate a ha, Option.some.injEq]
      constructor
      · intro hvalue b hb heq
        rw [hsame a ha b hb heq]
        exact hvalue
      · exact fun hvalues => hvalues a ha rfl
    · rw [get?_groupRow hgroup hkey]
      exact iff_of_true rfl fun a ha heq => absurd (heq ▸ List.mem_map_of_mem ha) hkey

/-- The key of a group of one column. -/
def Group.key (group : Group) : Value :=
  group.keys.headD .null

/-- The row of a group is that of its key, and the text of the key is that of the group. -/
theorem isRowOf_of_mem_groups (hwell : t.isWellTyped) (hgroup : request.groupBy = [g])
    (hsame : ∀ a ∈ request.aggregates, ∀ b ∈ request.aggregates, b.key = a.key → b = a)
    {ref : ColumnRef} (href : t.column g = .ok ref) {measures : List (ColumnRef × Aggregate)}
    (hmeasures : t.measures request = .ok measures) {text : String} {group : Group}
    (h : (text, group) ∈ (groups [ref] measures (t.selection request.filters)).entries) :
    t.IsRowOf request g (group.row request.groupBy measures) group.key ∧
      groupText [group.key] = text := by
  have hkeys : request.groupBy.mapM t.column = .ok [ref] := hgroup ▸ columns_of_column href
  obtain ⟨first, others, hmembers, rfl⟩ := group_of_mem h
  have htext := recordText_of_members hmembers
  have hfirst := mem_records_of_members hmembers
  have hkey : (Group.ofRecords [ref] measures first others).key = t.readAt g first :=
    readAt_eq href first
  subst htext
  rw [members_eq_holding hwell href hfirst] at hmembers
  refine ⟨?_, rfl⟩
  rw [row_eq_groupRow hkeys hmeasures, hkey]
  exact isRowOf_groupRow hgroup hsame hmembers

/-- The rows of an answer are those of different values. -/
theorem exists_keys (hwell : t.isWellTyped) (hgroup : request.groupBy = [g])
    (hhistogram : request.isHistogram = false)
    (hsame : ∀ a ∈ request.aggregates, ∀ b ∈ request.aggregates, b.key = a.key → b = a)
    {response : Response} (hrun : t.run request = .ok response) :
    ∃ keys : List Value, keys.Nodup ∧ List.Forall₂ (t.IsRowOf request g) response.rows keys := by
  obtain ⟨keyRefs, measures, -, hkeys, hmeasures, hanswer⟩ :=
    (run_grouped_eq_ok (by rw [hgroup]; exact List.cons_ne_nil _ _) hhistogram).1 hrun
  obtain ⟨ref, rfl, href⟩ := columns_singleton (hgroup ▸ hkeys)
  have hentry : ∀ e ∈ (groups [ref] measures (t.selection request.filters)).entries,
      t.IsRowOf request g (e.2.row request.groupBy measures) e.2.key ∧
        groupText [e.2.key] = e.1 :=
    fun e he => isRowOf_of_mem_groups hwell hgroup hsame href hmeasures he
  have hresult : List.Forall₂ (t.IsRowOf request g)
      ((groups [ref] measures (t.selection request.filters)).entries.map fun e =>
        e.2.row request.groupBy measures)
      ((groups [ref] measures (t.selection request.filters)).entries.map fun e => e.2.key) := by
    rw [List.forall₂_map_left_iff, List.forall₂_map_right_iff, List.forall₂_same]
    exact fun e he => (hentry e he).1
  -- Groups have different texts, and a text is determined by the key.
  have htexts : ((groups [ref] measures (t.selection request.filters)).entries.map
      fun e => e.2.key).map (fun v => groupText [v]) =
        (groups [ref] measures (t.selection request.filters)).keys := by
    rw [List.map_map]
    exact List.map_congr_left fun e he => (hentry e he).2
  have hnodup : ((groups [ref] measures (t.selection request.filters)).entries.map
      fun e => e.2.key).Nodup := by
    refine List.Nodup.of_map (fun v => groupText [v]) ?_
    rw [htexts]
    exact (groups [ref] measures (t.selection request.filters)).nodup_keys
  obtain ⟨keys, ⟨kept, hperm, hsub⟩, hrows⟩ :=
    forall₂_answer hanswer hresult
  exact ⟨keys, hperm.nodup_iff.1 (hnodup.sublist hsub), hrows⟩

end Chartboard.Table
