import Chartboard.Proofs.Data.Typing
import Chartboard.Proofs.Query.Accumulated
import Chartboard.Proofs.Query.Tuples

/-!
# Integer columns

The least and the greatest integer of a group come back as integers exactly if they are doubles
below `2 ^ 63`, and so does the sum if no rounding on the way to it was lost. Columns of less than
32 bits are read by their texts, and none of their results is an integer.
-/

namespace Chartboard

open Json (Value)
open Outcome

/-! ## Stored integers -/

/-- Integers of less than 32 bits, which are read by their texts. -/
def StorageType.isNarrow : StorageType → Bool
  | int bits | nat bits => bits < 32
  | _ => false

/-- The integer that a cell holds. -/
def Cell.int? : Cell → Option Int
  | .int i => some i
  | _ => none

/-- The integer that a row has in a column. -/
def ColumnRef.int? (ref : ColumnRef) (record : Record) : Option Int :=
  (record.getD ref.index .null).int?

/-- The two kinds of integer columns. -/
theorem StorageType.int_or_nat {type : StorageType} (h : type.dtype = .int64) :
    ∃ bits, type = .int bits ∨ type = .nat bits := by
  cases type with
  | int bits => exact ⟨bits, Or.inl rfl⟩
  | nat bits => exact ⟨bits, Or.inr rfl⟩
  | bool => cases h
  | float bits => cases h
  | text => cases h
  | largeText => cases h
  | category => cases h
  | days => cases h
  | ticks unit => cases h
  | other => cases h

/-- An integer column holds integers of at most 64 bits and nulls. -/
theorem StorageType.null_or_int {type : StorageType} {cell : Cell} (htype : type.dtype = .int64)
    (h : type.admits cell) : cell = .null ∨ ∃ i, cell = .int i ∧ i.natAbs ≤ 2 ^ 64 := by
  obtain ⟨bits, hbits⟩ := int_or_nat htype
  cases cell with
  | null => exact Or.inl rfl
  | int i =>
    refine Or.inr ⟨i, rfl, ?_⟩
    rcases hbits with rfl | rfl
    · simp only [admits, Bool.and_eq_true, decide_eq_true_eq] at h
      have hpow : (2 : Int) ^ (bits - 1) ≤ 2 ^ 64 := pow_le_pow_right₀ (by decide) (by omega)
      omega
    · simp only [admits, Bool.and_eq_true, decide_eq_true_eq] at h
      have hpow : (2 : Int) ^ bits ≤ 2 ^ 64 := pow_le_pow_right₀ (by decide) h.1.1
      omega
  | bool b => rcases hbits with rfl | rfl <;> cases h
  | float x => rcases hbits with rfl | rfl <;> cases h
  | text s => rcases hbits with rfl | rfl <;> cases h

/-- Integers of less than 32 bits are read as texts, all others as they are. -/
theorem StorageType.read_int {type : StorageType} (htype : type.dtype = .int64) (i : Int) :
    type.read (.int i) = if type.isNarrow then .string (toString i) else .int i := by
  obtain ⟨bits, rfl | rfl⟩ := int_or_nat htype
  · simp only [read, isNarrow, decide_eq_true_eq]
  · simp only [read, isNarrow, decide_eq_true_eq]

namespace Table

variable {t : Table} {request : Request} {name : String} {ref : ColumnRef} {records : List Record}

/-! ## Accumulators of a column -/

/-- The value of an integer column that is not narrow is the stored integer, which has no more than
64 bits. -/
theorem readAt_of_wide (hwell : t.isWellTyped) (href : t.column? name = some ref)
    (htype : ref.type.dtype = .int64) (hwide : ref.type.isNarrow = false) {r : Record}
    (hr : r ∈ t.records) :
    t.readAt name r = (ref.int? r).elim .null .int ∧
      ∀ i, ref.int? r = some i → i.natAbs ≤ 2 ^ 64 := by
  have hadmits := admits_of_column? hwell href hr
  rw [readAt_of_column? href]
  unfold ColumnRef.read ColumnRef.int?
  obtain hcell | ⟨i, hcell, hbound⟩ := StorageType.null_or_int htype hadmits
  · rw [hcell]
    exact ⟨rfl, fun i hi => nomatch hi⟩
  · rw [hcell, StorageType.read_int htype, hwide]
    refine ⟨rfl, fun j hj => ?_⟩
    cases hj
    exact hbound

/-- Over a wide integer column an accumulator keeps the rounded sum and extremes of its integers. -/
theorem rounds_of_wide (hwell : t.isWellTyped) (href : t.column? name = some ref)
    (htype : ref.type.dtype = .int64) (hwide : ref.type.isNarrow = false)
    (hrecords : ∀ r ∈ records, r ∈ t.records) :
    (Accumulator.ofValues (records.map (t.readAt name))).Rounds (records.filterMap ref.int?) := by
  have hread : ∀ r ∈ records, t.readAt name r = (ref.int? r).elim .null .int := fun r hr =>
    (readAt_of_wide hwell href htype hwide (hrecords r hr)).1
  rw [List.map_congr_left hread]
  refine Accumulator.rounds_ofValues fun i hi => ?_
  obtain ⟨r, hr, hint⟩ := List.mem_filterMap.1 hi
  exact (readAt_of_wide hwell href htype hwide (hrecords r hr)).2 i hint

/-- The text of an integer is a number, but none of JSON. -/
theorem fractional_of_narrow (href : t.column? name = some ref) (htype : ref.type.dtype = .int64)
    (hnarrow : ref.type.isNarrow) (hcells : records.filterMap ref.int? ≠ []) :
    (Accumulator.ofValues (records.map (t.readAt name))).fractional := by
  obtain ⟨i, hi⟩ := List.exists_mem_of_ne_nil _ hcells
  obtain ⟨r, hr, hint⟩ := List.mem_filterMap.1 hi
  have hcell : r.getD ref.index .null = .int i := by
    unfold ColumnRef.int? at hint
    revert hint
    cases r.getD ref.index .null with
    | int j => exact fun hint => congrArg Cell.int (Option.some.inj hint)
    | null => exact fun hint => nomatch hint
    | bool b => exact fun hint => nomatch hint
    | float x => exact fun hint => nomatch hint
    | text s => exact fun hint => nomatch hint
  have hvalue : t.readAt name r = .string (toString i) := by
    rw [readAt_of_column? href, ColumnRef.read, hcell, StorageType.read_int htype, if_pos hnarrow]
  have hnumber : (Value.string (toString i)).asNumber?.isSome := by
    show (Double.ofText? (Text.trim (toString i))).isSome
    rw [trim_toString_int, Double.ofText?_toString_int]
    rfl
  rw [Accumulator.fractional_ofValues, List.any_eq_true]
  refine ⟨t.readAt name r, List.mem_map_of_mem hr, ?_⟩
  rw [hvalue, hnumber]
  rfl

/-! ## Rows -/

/-- When the cell of an aggregate over the integers that are in a column is their exact result. -/
structure ExactWhere (type : StorageType) (cells : List Int) (a : Aggregate) (row : Row) :
    Prop where
  /-- The least integer has to be a double. -/
  least : a.function = .min → ∀ m, cells.min? = some m →
    (row.get? a.key = some (.int m) ↔
      type.isNarrow = false ∧ nearest m = m ∧ m.natAbs < 2 ^ 63)
  /-- The greatest integer has to be a double. -/
  greatest : a.function = .max → ∀ m, cells.max? = some m →
    (row.get? a.key = some (.int m) ↔
      type.isNarrow = false ∧ nearest m = m ∧ m.natAbs < 2 ^ 63)
  /-- Rounding after every integer has to leave the sum as it is. -/
  sum : a.function = .sum → cells ≠ [] →
    (row.get? a.key = some (.int cells.sum) ↔
      type.isNarrow = false ∧ roundedSum cells = cells.sum ∧ cells.sum.natAbs < 2 ^ 63)

/-- In a column that is not narrow, small integers are summed exactly. -/
theorem ExactWhere.sum_of_small {type : StorageType} {cells : List Int} {a : Aggregate} {row : Row}
    (h : ExactWhere type cells a row) (hfunction : a.function = .sum) (hcells : cells ≠ [])
    (hwide : type.isNarrow = false) (hsmall : (cells.map Int.natAbs).sum ≤ 2 ^ 53) :
    row.get? a.key = some (.int cells.sum) := by
  have hbound := natAbs_sum_le cells
  have hsize : cells.sum.natAbs < 2 ^ 63 := by omega
  exact (h.sum hfunction hcells).2 ⟨hwide, roundedSum_eq_sum hsmall, hsize⟩

/-- A result is an integer only in a column that is not narrow, and there it comes from what the
accumulator keeps of the integers. -/
theorem aggregated_eq_int_iff (hwell : t.isWellTyped) {a : Aggregate}
    (href : t.column? a.column = some ref) (htype : ref.type.dtype = .int64)
    (hrecords : ∀ r ∈ records, r ∈ t.records) (hfunction : a.function ≠ .count)
    (hcells : records.filterMap ref.int? ≠ []) {m : Int} {p : Prop}
    (h : ∀ acc : Accumulator, acc.Rounds (records.filterMap ref.int?) →
      (acc.finish a.function = .int m ↔ p)) :
    t.aggregated a records = .int m ↔ ref.type.isNarrow = false ∧ p := by
  unfold aggregated
  cases hnarrow : ref.type.isNarrow with
  | true =>
    have hfractional := fractional_of_narrow href htype hnarrow hcells
    exact iff_of_false (Accumulator.finish_of_fractional hfractional hfunction)
      fun hwide => Bool.noConfusion hwide.1
  | false =>
    have hrounds := rounds_of_wide hwell href htype hnarrow hrecords
    exact (h _ hrounds).trans (and_iff_right rfl).symm

/-- The row of a group has exact integers under its aggregates where rounding allows it, and only
there. -/
theorem exactWhere_groupRow (hwell : t.isWellTyped) {a : Aggregate} (ha : a ∈ request.aggregates)
    (href : t.column? a.column = some ref) (htype : ref.type.dtype = .int64) {first : Record}
    {others : List Record} (hrecords : ∀ r ∈ first :: others, r ∈ t.records) :
    ExactWhere ref.type ((first :: others).filterMap ref.int?) a
      (t.groupRow request first others) := by
  have hcell := get?_groupRow_aggregate (t := t) ha
    (fun b _ hkey => Aggregate.key_injective hkey) first others
  have hresult := @aggregated_eq_int_iff t ref (first :: others) hwell a href htype hrecords
  constructor
  · intro hfunction m hmin
    have hcells : (first :: others).filterMap ref.int? ≠ [] := by
      intro hempty
      rw [hempty] at hmin
      cases hmin
    rw [hcell, Option.some.injEq]
    refine hresult (by rw [hfunction]; decide) hcells fun acc hacc => ?_
    rw [hfunction]
    exact hacc.min_eq_int_iff hmin
  · intro hfunction m hmax
    have hcells : (first :: others).filterMap ref.int? ≠ [] := by
      intro hempty
      rw [hempty] at hmax
      cases hmax
    rw [hcell, Option.some.injEq]
    refine hresult (by rw [hfunction]; decide) hcells fun acc hacc => ?_
    rw [hfunction]
    exact hacc.max_eq_int_iff hmax
  · intro hfunction hcells
    rw [hcell, Option.some.injEq]
    refine hresult (by rw [hfunction]; decide) hcells fun acc hacc => ?_
    rw [hfunction]
    exact hacc.sum_eq_int_iff

open scoped Classical in
/-- Whether the result over an integer column is exact depends on the integers that the rows of a
group have in the column: the result of the request has a row for each tuple of cells that selected
rows have under the grouping columns, and the group are the rows with the tuple. The result becomes
the answer, and it does so in any case if the rows are sorted by an aggregate or not at all. -/
theorem exact_integers_iff (hwell : t.isWellTyped) (hhistogram : request.isHistogram = false)
    (hfilters : ∀ f ∈ request.filters, f.column ∈ t.names)
    (hnames : ∀ name ∈ request.groupBy, name ∈ t.names)
    (haggregates : ∀ a ∈ request.aggregates, a.column ∈ t.names) {a : Aggregate}
    (ha : a ∈ request.aggregates) (href : t.column? a.column = some ref)
    (htype : ref.type.dtype = .int64) :
    ∃ result, t.result request = .ok result ∧ t.run request = answer request result ∧
      (request.SortsByAggregate → ∃ response, t.run request = .ok response) ∧
      List.Forall₂
        (fun row cells => ExactWhere ref.type ((t.members request cells).filterMap ref.int?) a row)
        result.rows ((t.selection request.filters).map (t.cellsAt request.groupBy)).eraseDups := by
  obtain ⟨result, hresult⟩ := result_total hhistogram hfilters hnames haggregates
  have hrun : t.run request = answer request result := by
    rw [run_eq, hresult]
    rfl
  refine ⟨result, hresult, hrun, fun hsort => ?_, ?_⟩
  · rw [hrun]
    exact answer_of_sortsByAggregate hhistogram hsort hresult
  rw [rows_result hwell hhistogram (List.ne_nil_of_mem ha) hresult, groupRows,
    List.forall₂_map_left_iff, List.forall₂_same]
  intro cells hcells
  obtain ⟨first, others, hmembers, -, rfl⟩ := exists_members hcells
  have hrecords : ∀ r ∈ first :: others, r ∈ t.records := by
    rw [← hmembers]
    exact fun r hr => mem_records_of_selection (List.mem_filter.1 hr).1
  unfold members
  rw [hmembers, ← groupRow_eq_rowOf]
  exact exactWhere_groupRow hwell ha href htype hrecords

/-! ## Neighbouring integers -/

/-- Numbers of visitors by region. Those of the first region have one digit more than doubles
have. -/
def visitorTable : Table where
  columns := [⟨"region", .text⟩, ⟨"visitors", .int 64⟩]
  records :=
    [[.text "East", .int 9007199254740993], [.text "West", .int 9007199254740994],
     [.text "West", .null]]

/-- The greatest number of each region. -/
def greatestByRegion : Request where
  groupBy := ["region"]
  aggregates := [⟨"visitors", .max⟩]

open scoped Classical in
/-- The greatest count of visitors of each region, read from a column of 64 bits. -/
theorem exact_integers_iff_visitors :
    visitorTable.isWellTyped ∧ greatestByRegion.isHistogram = false ∧
    (∀ f ∈ greatestByRegion.filters, f.column ∈ visitorTable.names) ∧
    (∀ name ∈ greatestByRegion.groupBy, name ∈ visitorTable.names) ∧
    (∀ a ∈ greatestByRegion.aggregates, a.column ∈ visitorTable.names) ∧
    ⟨"visitors", .max⟩ ∈ greatestByRegion.aggregates ∧
    visitorTable.column? "visitors" = some ⟨1, .int 64⟩ ∧
    (StorageType.int 64).dtype = .int64 ∧
    ∃ result, visitorTable.result greatestByRegion = .ok result ∧
      visitorTable.run greatestByRegion = answer greatestByRegion result ∧
      (greatestByRegion.SortsByAggregate →
        ∃ response, visitorTable.run greatestByRegion = .ok response) ∧
      List.Forall₂
        (fun row cells => ExactWhere (.int 64)
          ((visitorTable.members greatestByRegion cells).filterMap (ColumnRef.int? ⟨1, .int 64⟩))
          ⟨"visitors", .max⟩ row)
        result.rows ((visitorTable.selection greatestByRegion.filters).map
          (visitorTable.cellsAt greatestByRegion.groupBy)).eraseDups := by
  have hwell : visitorTable.isWellTyped := by decide +kernel
  have hfilters : ∀ f ∈ greatestByRegion.filters, f.column ∈ visitorTable.names := by decide
  have hnames : ∀ name ∈ greatestByRegion.groupBy, name ∈ visitorTable.names := by decide
  have haggregates : ∀ a ∈ greatestByRegion.aggregates, a.column ∈ visitorTable.names := by decide
  have ha : ⟨"visitors", .max⟩ ∈ greatestByRegion.aggregates := List.mem_cons_self
  have href : visitorTable.column? "visitors" = some ⟨1, .int 64⟩ := rfl
  exact ⟨hwell, rfl, hfilters, hnames, haggregates, ha, href, rfl,
    exact_integers_iff hwell rfl hfilters hnames haggregates ha href rfl⟩

/-- Numbers of eight bits. -/
def stepTable : Table where
  columns := [⟨"steps", .int 8⟩]
  records := [[.int 5], [.int 3]]

/-- The sum of the numbers. -/
def totalSteps : Request where
  aggregates := [⟨"steps", .sum⟩]

/-- The greatest number of a region comes back as another one, which the data do not hold, and the
sum of small numbers of eight bits comes back as a double. -/
theorem greatest_not_stored_sum_not_integer :
    (visitorTable.isWellTyped ∧ visitorTable.catalog.dtypeOf "visitors" = some .int64 ∧
      visitorTable.run greatestByRegion = .ok {
        rows := [
          .ofList [("region", .string "East"), ("visitors_max", .int 9007199254740992)],
          .ofList [("region", .string "West"), ("visitors_max", .int 9007199254740994)]]
        totalRows := some 2
        columns := ["region", "visitors_max"] } ∧
      ∀ r ∈ visitorTable.records, ColumnRef.int? ⟨1, .int 64⟩ r ≠ some 9007199254740992) ∧
    stepTable.isWellTyped ∧ stepTable.catalog.dtypeOf "steps" = some .int64 ∧
    stepTable.run totalSteps = .ok {
      rows := [.ofList [("steps_sum", .number (.float 8.0))]]
      totalRows := some 1
      columns := ["steps_sum"] } := by
  refine ⟨⟨by decide +kernel, rfl, by with_unfolding_all rfl, ?_⟩, by decide +kernel, rfl,
    by with_unfolding_all rfl⟩
  intro r hr
  simp only [visitorTable, List.mem_cons, List.not_mem_nil, or_false] at hr
  obtain rfl | rfl | rfl := hr <;> decide

end Table

end Chartboard
