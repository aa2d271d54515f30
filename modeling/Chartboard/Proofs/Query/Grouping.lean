import Chartboard.Proofs.Ledger.Lookup
import Chartboard.Proofs.Query.Selection

/-!
# Groups of rows

Rows with the same text of keys make one group. The group of a text holds the keys of the first row
with that text and everything that the accumulators take from all of them, in their order.
-/

namespace Chartboard.Table

open Json (Value)
open Outcome

/-- The text by which the group of a row is told apart. -/
def recordText (keyRefs : List ColumnRef) (record : Record) : String :=
  groupText (keyRefs.map fun ref => ref.read record)

/-- What the accumulators take from some rows. -/
def accumulated (measures : List (ColumnRef × Aggregate)) (records : List Record) :
    List Accumulator :=
  measures.map fun (ref, _) => Accumulator.ofValues (records.map ref.read)

/-- The group of a first row and some others. -/
def Group.ofRecords (keyRefs : List ColumnRef) (measures : List (ColumnRef × Aggregate))
    (first : Record) (others : List Record) : Group where
  keys := keyRefs.map fun ref => ref.read first
  accumulators := accumulated measures (first :: others)

/-- The groups of some rows by their texts. -/
def groups (keyRefs : List ColumnRef) (measures : List (ColumnRef × Aggregate))
    (records : List Record) : Ledger String Group :=
  records.foldl (pushRecord keyRefs measures) ∅

variable {keyRefs : List ColumnRef} {measures : List (ColumnRef × Aggregate)}

/-- One more value is pushed last. -/
theorem ofValues_concat (values : List Value) (v : Value) :
    Accumulator.ofValues (values ++ [v]) = (Accumulator.ofValues values).push v := by
  unfold Accumulator.ofValues
  rw [List.foldl_append, List.foldl_cons, List.foldl_nil]

/-- Pushing a record onto a group accumulates it after the others. -/
theorem push_accumulated (keys : List Value) (records : List Record) (record : Record) :
    Group.push ⟨keys, accumulated measures records⟩ measures record =
      ⟨keys, accumulated measures (records ++ [record])⟩ := by
  unfold Group.push accumulated
  simp only [List.map_append, List.map_cons, List.map_nil, ofValues_concat]
  congr 1
  induction measures with
  | nil => rfl
  | cons m rest ih => simp [ih]

/-- One more record is pushed onto the groups of the others. -/
theorem groups_concat (records : List Record) (record : Record) :
    groups keyRefs measures (records ++ [record]) =
      pushRecord keyRefs measures (groups keyRefs measures records) record := by
  unfold groups
  rw [List.foldl_append, List.foldl_cons, List.foldl_nil]

/-- The group of a text is made by the rows with that text. -/
theorem get?_groups (records : List Record) (text : String) :
    (groups keyRefs measures records).get? text =
      match records.filter fun r => recordText keyRefs r = text with
      | [] => none
      | first :: others => some (Group.ofRecords keyRefs measures first others) := by
  induction records using List.reverseRecOn with
  | nil => rfl
  | append_singleton records record ih =>
    rw [groups_concat, List.filter_append]
    unfold pushRecord
    rw [Ledger.get?_insert]
    by_cases htext : text = recordText keyRefs record
    · have hthis : text = groupText (keyRefs.map fun ref => ref.read record) := htext
      rw [if_pos hthis, ← hthis, ih, List.filter_cons_of_pos (by simp [htext]), List.filter_nil]
      cases records.filter fun r => recordText keyRefs r = text with
      | nil =>
        rw [Option.getD_none]
        exact congrArg some (push_accumulated _ [] record)
      | cons first others =>
        rw [Option.getD_some, List.cons_append]
        exact congrArg some (push_accumulated _ (first :: others) record)
    · have hother : text ≠ groupText (keyRefs.map fun ref => ref.read record) := htext
      rw [if_neg hother, ih, List.filter_cons_of_neg (by simp [Ne.symm hother, recordText]),
        List.filter_nil, List.append_nil]

/-- The groups are those of the texts of the rows. -/
theorem mem_keys_groups {records : List Record} {text : String} :
    text ∈ (groups keyRefs measures records).keys ↔
      ∃ r ∈ records, recordText keyRefs r = text := by
  rw [← Ledger.get?_isSome_iff, get?_groups]
  cases hmembers : records.filter fun r => recordText keyRefs r = text with
  | nil =>
    simp only [Option.isSome_none, Bool.false_eq_true, false_iff, not_exists, not_and]
    intro r hr
    have hnone := List.filter_eq_nil_iff.1 hmembers r hr
    simpa using hnone
  | cons first others =>
    have hfirst : first ∈ records.filter fun r => recordText keyRefs r = text := by
      rw [hmembers]
      exact List.mem_cons_self
    rw [List.mem_filter, decide_eq_true_eq] at hfirst
    simp only [Option.isSome_some, true_iff]
    exact ⟨first, hfirst⟩

/-- There are no groups only where there are no rows. -/
theorem groups_entries_eq_nil_iff {records : List Record} :
    (groups keyRefs measures records).entries = [] ↔ records = [] := by
  constructor
  · intro h
    by_contra hne
    obtain ⟨r, hr⟩ := List.exists_mem_of_ne_nil records hne
    have hkey : recordText keyRefs r ∈ (groups keyRefs measures records).keys :=
      mem_keys_groups.2 ⟨r, hr, rfl⟩
    unfold Ledger.keys at hkey
    rw [h] at hkey
    cases hkey
  · rintro rfl
    rfl

/-- Every group is made by a first row and those after it with the same text. -/
theorem group_of_mem {records : List Record} {text : String} {g : Group}
    (h : (text, g) ∈ (groups keyRefs measures records).entries) :
    ∃ first others, (records.filter fun r => recordText keyRefs r = text) = first :: others ∧
      g = Group.ofRecords keyRefs measures first others := by
  have hget := Ledger.get?_eq_some_iff.2 h
  rw [get?_groups] at hget
  cases hmembers : records.filter fun r => recordText keyRefs r = text with
  | nil =>
    rw [hmembers] at hget
    cases hget
  | cons first others =>
    rw [hmembers] at hget
    cases hget
    exact ⟨first, others, rfl, rfl⟩

/-- There is one group exactly where all rows have its text. -/
theorem groups_entries_eq_singleton_iff {records : List Record} {text : String} {g : Group} :
    (groups keyRefs measures records).entries = [(text, g)] ↔
      ∃ first others, records = first :: others ∧
        (∀ r ∈ records, recordText keyRefs r = text) ∧
        g = Group.ofRecords keyRefs measures first others := by
  have hall : (∀ r ∈ records, recordText keyRefs r = text) →
      records.filter (fun r => recordText keyRefs r = text) = records := by
    intro htexts
    rw [List.filter_eq_self]
    intro r hr
    exact decide_eq_true (htexts r hr)
  constructor
  · intro h
    have hkeys : (groups keyRefs measures records).keys = [text] := by
      unfold Ledger.keys
      rw [h]
      rfl
    have htexts : ∀ r ∈ records, recordText keyRefs r = text := by
      intro r hr
      have hkey := (@mem_keys_groups keyRefs measures records _).2 ⟨r, hr, rfl⟩
      rw [hkeys] at hkey
      exact List.mem_singleton.1 hkey
    have hmem : (text, g) ∈ (groups keyRefs measures records).entries := by
      rw [h]
      exact List.mem_singleton_self _
    obtain ⟨first, others, hmembers, hg⟩ := group_of_mem hmem
    rw [hall htexts] at hmembers
    exact ⟨first, others, hmembers, htexts, hg⟩
  · rintro ⟨first, others, hrecords, htexts, hg⟩
    have hentry : (text, g) ∈ (groups keyRefs measures records).entries := by
      rw [← Ledger.get?_eq_some_iff, get?_groups, hall htexts, hrecords, hg]
    have hkeys : ∀ k ∈ (groups keyRefs measures records).keys, k = text := by
      intro k hk
      obtain ⟨r, hr, hkey⟩ := mem_keys_groups.1 hk
      rw [← hkey, htexts r hr]
    exact Ledger.entries_eq_singleton hentry hkeys

/-! ## Rows of groups -/

/-- The cells that the aggregates of a group write. -/
def aggregateCells (measures : List (ColumnRef × Aggregate)) (accumulators : List Accumulator) :
    List (String × Value) :=
  (accumulators.zip measures).map fun (acc, _, a) => (a.key, acc.finish a.function)

/-- The cells of a group are those of its values, aggregate by aggregate. -/
theorem aggregateCells_accumulated (records : List Record) :
    aggregateCells measures (accumulated measures records) =
      measures.map fun (ref, a) =>
        (a.key, (Accumulator.ofValues (records.map ref.read)).finish a.function) := by
  unfold aggregateCells accumulated
  induction measures with
  | nil => rfl
  | cons m rest ih => simp [ih]

/-- A row has the cells of the first record under the group columns, then the aggregates over all of
them. -/
theorem row_ofRecords (groupBy : List String) (first : Record) (others : List Record) :
    (Group.ofRecords keyRefs measures first others).row groupBy measures =
      Ledger.ofList (groupBy.zip (keyRefs.map fun ref => ref.read first) ++
        measures.map fun (ref, a) =>
          (a.key, (Accumulator.ofValues ((first :: others).map ref.read)).finish a.function)) := by
  rw [← aggregateCells_accumulated]
  rfl

/-- A row of a group has a cell for every grouping column and every aggregate, and no others. -/
theorem mem_keys_row {groupBy : List String} (h : keyRefs.length = groupBy.length)
    (first : Record) (others : List Record) {k : String} :
    k ∈ ((Group.ofRecords keyRefs measures first others).row groupBy measures).keys ↔
      k ∈ groupBy ∨ k ∈ measures.map (·.2.key) := by
  rw [row_ofRecords, Ledger.mem_keys_ofList, List.map_append, List.mem_append, List.map_fst_zip,
    List.map_map]
  · exact Iff.rfl
  · exact Nat.le_of_eq (by rw [List.length_map, h])

/-- The measures are those of the aggregates of the request, in order. -/
theorem measures_eq_ok {t : Table} {request : Request} (h : t.measures request = .ok measures) :
    measures.map (·.2) = request.aggregates := by
  unfold Table.measures at h
  rw [mapM_eq_ok] at h
  generalize request.aggregates = aggregates at h ⊢
  induction h with
  | nil => rfl
  | cons hpair _ ih =>
    obtain ⟨ref, _, hpure⟩ := bind_eq_ok.1 hpair
    rw [pure_eq_ok] at hpure
    subst hpure
    rw [List.map_cons, ih]

/-- Grouping succeeds exactly where all columns are found, with one row for each group. -/
theorem grouped_eq_ok {t : Table} {request : Request} {selected : List Record}
    {result : ResultSet} :
    t.grouped request selected = .ok result ↔
      ∃ keyRefs measures, request.groupBy.mapM t.column = .ok keyRefs ∧
        t.measures request = .ok measures ∧
        result = ⟨request.groupBy ++ measures.map (·.2.key),
          (groups keyRefs measures selected).entries.map fun (_, g) =>
            g.row request.groupBy measures⟩ := by
  unfold grouped
  rw [bind_eq_ok]
  constructor
  · rintro ⟨keyRefs, hkeys, hrest⟩
    obtain ⟨measures, hmeasures, hpure⟩ := bind_eq_ok.1 hrest
    exact ⟨keyRefs, measures, hkeys, hmeasures, (pure_eq_ok.1 hpure).symm⟩
  · rintro ⟨keyRefs, measures, hkeys, hmeasures, rfl⟩
    exact ⟨keyRefs, hkeys, bind_eq_ok.2 ⟨measures, hmeasures, rfl⟩⟩

/-- The row of some rows together: the cells of the first one under the names of the grouping
columns, and then the aggregates of all of them. -/
def groupRow (t : Table) (request : Request) (first : Record) (others : List Record) : Row :=
  Ledger.ofList (request.groupBy.map (fun name => (name, t.readAt name first)) ++
    request.aggregates.map fun a =>
      (a.key, (Accumulator.ofValues ((first :: others).map (t.readAt a.column))).finish a.function))

/-- The keys of a row are its cells under the grouping columns. -/
theorem read_keys {t : Table} {names : List String} (h : names.mapM t.column = .ok keyRefs)
    (record : Record) :
    (keyRefs.map fun ref => ref.read record) = names.map fun name => t.readAt name record := by
  rw [mapM_eq_ok] at h
  induction h with
  | nil => rfl
  | cons href _ ih => rw [List.map_cons, List.map_cons, ih, readAt_eq href]

/-- The group columns read the cells of a record under their names. -/
theorem zip_keys {t : Table} {names : List String} (h : names.mapM t.column = .ok keyRefs)
    (record : Record) :
    names.zip (keyRefs.map fun ref => ref.read record) =
      names.map fun name => (name, t.readAt name record) := by
  rw [read_keys h, List.map_prod_left_eq_zip]

/-- The aggregates of a request are taken from the cells under the names of their columns. -/
theorem cells_measures {t : Table} {request : Request} (h : t.measures request = .ok measures)
    (records : List Record) :
    (measures.map fun (ref, a) =>
      (a.key, (Accumulator.ofValues (records.map ref.read)).finish a.function)) =
    request.aggregates.map fun a =>
      (a.key, (Accumulator.ofValues (records.map (t.readAt a.column))).finish a.function) := by
  unfold Table.measures at h
  rw [mapM_eq_ok] at h
  generalize request.aggregates = aggregates at h
  induction h with
  | nil => rfl
  | cons hpair _ ih =>
    obtain ⟨ref, href, hpure⟩ := bind_eq_ok.1 hpair
    rw [pure_eq_ok] at hpure
    subst hpure
    rw [List.map_cons, List.map_cons, ih, readAt_of_column? (column_eq_ok.1 href)]

/-- The row of a group is made of the cells of its rows. -/
theorem row_eq_groupRow {t : Table} {request : Request}
    (hkeys : request.groupBy.mapM t.column = .ok keyRefs)
    (hmeasures : t.measures request = .ok measures) (first : Record) (others : List Record) :
    (Group.ofRecords keyRefs measures first others).row request.groupBy measures =
      t.groupRow request first others := by
  rw [row_ofRecords, cells_measures hmeasures, zip_keys hkeys]
  rfl

end Chartboard.Table
