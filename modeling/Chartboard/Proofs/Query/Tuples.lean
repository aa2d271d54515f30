import Chartboard.Proofs.Query.FirstSeen

/-!
# Groups by tuples

The rows of the groups of a table belong to the different tuples of cells that the selected rows
have under the grouping columns, in the order in which these tuples first come. Tuples are told
apart by their JSON text, which loses nothing: two rows are of one group exactly if all their cells
are the same. A row carries its tuple, and what every aggregate makes of the rows of the group.
-/

namespace Chartboard

open Json (Value Number)
open Outcome

/-- Two cells are both null, the same truth value, integer or text, or doubles that are printed
alike. -/
inductive SameCell : Value → Value → Prop where
  /-- Both are null. -/
  | null : SameCell .null .null
  /-- They are the same truth value. -/
  | bool (b : Bool) : SameCell (.bool b) (.bool b)
  /-- They are the same integer. -/
  | int (i : Int) : SameCell (.number (.int i)) (.number (.int i))
  /-- They are the same text. -/
  | text (s : String) : SameCell (.string s) (.string s)
  /-- They are doubles of one printed form. -/
  | float {x y : Float} : (Number.float x).text = (Number.float y).text →
      SameCell (.number (.float x)) (.number (.float y))

/-- Cells that are the same are equal, since the printed form of a finite double determines it. -/
theorem sameCell_iff {v w : Value} (hv : v.isScalar) (hw : w.isScalar) : SameCell v w ↔ v = w := by
  constructor
  · intro h
    cases h with
    | float htext =>
      exact congrArg Value.number
        (Number.text_injective (m := .float _) (n := .float _) hv hw htext)
    | _ => rfl
  · rintro rfl
    cases v with
    | null => exact .null
    | bool b => exact .bool b
    | string s => exact .text s
    | number n =>
      cases n with
      | int i => exact .int i
      | float x => exact .float rfl
    | array items => cases hv
    | object members => cases hv

namespace Table

variable {t : Table} {request : Request} {keyRefs : List ColumnRef}

open scoped Classical in
/-- The selected rows with a tuple of cells under the grouping columns, in their order. -/
noncomputable def members (t : Table) (request : Request) (cells : List Value) : List Record :=
  (t.selection request.filters).filter fun r => t.cellsAt request.groupBy r = cells

/-- The row of the group of a tuple. -/
structure IsTupleRow (t : Table) (request : Request) (row : Row) (cells : List Value) : Prop where
  /-- It has a cell for every grouping column and every aggregate, and no others. -/
  keys : ∀ k, k ∈ row.keys ↔ k ∈ request.groupBy ∨ k ∈ request.aggregates.map Aggregate.key
  /-- It carries the tuple under the names of the grouping columns. -/
  tuple : ∀ (i : Nat) (name : String), request.groupBy[i]? = some name → row.get? name = cells[i]?
  /-- It carries what every aggregate makes of the rows of the group. -/
  aggregate : ∀ a ∈ request.aggregates, row.get? a.key =
    some ((Accumulator.ofValues ((t.members request cells).map (t.readAt a.column))).finish
      a.function)

/-- The tuples of two rows are equal exactly if all their cells are the same. -/
theorem cellsAt_eq_iff (hwell : t.isWellTyped) {names : List String}
    (hkeys : names.mapM t.column = .ok keyRefs) {r r' : Record} (hr : r ∈ t.records)
    (hr' : r' ∈ t.records) :
    t.cellsAt names r = t.cellsAt names r' ↔
      ∀ name ∈ names, SameCell (t.readAt name r) (t.readAt name r') := by
  unfold cellsAt
  rw [List.map_inj_left]
  refine forall₂_congr fun name hname => ?_
  have hscalar : ∀ {r : Record}, r ∈ t.records → (t.readAt name r).isScalar := fun hr =>
    isScalar_of_mem_cellsAt hwell hkeys hr (List.mem_map_of_mem hname)
  exact (sameCell_iff (hscalar hr) (hscalar hr')).symm

/-- The row of a first row and the others with its tuple. -/
theorem isTupleRow_groupRow
    (hapart : ∀ name ∈ request.groupBy, name ∉ request.aggregates.map Aggregate.key)
    {first : Record} {others : List Record}
    (hmembers : t.members request (t.cellsAt request.groupBy first) = first :: others) :
    t.IsTupleRow request (t.groupRow request first others)
      (t.cellsAt request.groupBy first) where
  keys _ := mem_keys_groupRow
  tuple i name hname := by
    have hmem := List.mem_of_getElem? hname
    rw [get?_groupRow_key hmem (hapart name hmem), cellsAt, List.getElem?_map, hname,
      Option.map_some]
  aggregate a ha := by
    rw [hmembers]
    exact get?_groupRow_aggregate ha (fun b _ hkey => Aggregate.key_injective hkey) first others

open scoped Classical in
/-- A request for groups by columns that are there, none of which is called like an aggregate, has a
result: one row for each tuple, in the order in which the tuples first come, and rows are of one
tuple exactly if all their cells are the same. -/
theorem rows_of_tuples (hwell : t.isWellTyped) (hhistogram : request.isHistogram = false)
    (hgroup : request.groupBy ≠ []) (hfilters : ∀ f ∈ request.filters, f.column ∈ t.names)
    (hnames : ∀ name ∈ request.groupBy, name ∈ t.names)
    (haggregates : ∀ a ∈ request.aggregates, a.column ∈ t.names)
    (hapart : ∀ name ∈ request.groupBy, name ∉ request.aggregates.map Aggregate.key) :
    ∃ result, t.result request = .ok result ∧
      List.Forall₂ (t.IsTupleRow request) result.rows
        ((t.selection request.filters).map (t.cellsAt request.groupBy)).eraseDups ∧
      ∀ r ∈ t.selection request.filters, ∀ r' ∈ t.selection request.filters,
        (t.cellsAt request.groupBy r = t.cellsAt request.groupBy r' ↔
          ∀ name ∈ request.groupBy, SameCell (t.readAt name r) (t.readAt name r')) := by
  obtain ⟨keyRefs, hkeys⟩ := columns_total hnames
  obtain ⟨measures, hmeasures⟩ := measures_total haggregates
  have hgrouped := (@grouped_eq_ok t request (t.selection request.filters) _).2
    ⟨keyRefs, measures, hkeys, hmeasures, rfl⟩
  refine ⟨⟨request.groupBy ++ measures.map (·.2.key),
    (groups keyRefs measures (t.selection request.filters)).entries.map
      fun e => e.2.row request.groupBy measures⟩, ?_, ?_, ?_⟩
  · rw [result_of_known hfilters, if_neg (by rw [hhistogram]; decide), if_pos (by simp [hgroup])]
    exact hgrouped
  · show List.Forall₂ _ ((groups keyRefs measures (t.selection request.filters)).entries.map
      fun e => e.2.row request.groupBy measures) _
    rw [rows_groups hwell hkeys hmeasures, groupRows, List.forall₂_map_left_iff,
      List.forall₂_same]
    intro cells hcells
    obtain ⟨first, others, hmembers, -, rfl⟩ := exists_members hcells
    rw [hmembers, ← groupRow_eq_rowOf]
    exact isTupleRow_groupRow hapart hmembers
  · intro r hr r' hr'
    exact cellsAt_eq_iff hwell hkeys (mem_records_of_selection hr) (mem_records_of_selection hr')

/-! ## Texts with quotes and commas -/

/-- Sales under two texts. Those of the first two rows read alike when they are put next to each
other in quotes, and the last row is of a shop that has closed. -/
def quotedTable : Table where
  columns := [⟨"maker", .text⟩, ⟨"model", .text⟩, ⟨"sales", .int 64⟩, ⟨"open", .bool⟩]
  records :=
    [[.text "a\",\"b", .text "c", .int 3, .bool true],
     [.text "a", .text "b\",\"c", .int 5, .bool true],
     [.text "a\",\"b", .text "c", .null, .bool true],
     [.text "a", .null, .int 8, .bool true],
     [.text "a", .text "b\",\"c", .int 7, .bool false]]

/-- The sum of the sales and their number under each pair of texts. -/
def byTexts : Request where
  groupBy := ["maker", "model"]
  aggregates := [⟨"sales", .sum⟩, ⟨"sales", .count⟩]
  filters := [⟨"open", .bool true⟩]

open scoped Classical in
/-- The rows of two columns whose texts have quotes and commas in them. -/
theorem rows_of_tuples_quotedTexts :
    quotedTable.isWellTyped ∧
    byTexts.isHistogram = false ∧ byTexts.groupBy ≠ [] ∧
    (∀ f ∈ byTexts.filters, f.column ∈ quotedTable.names) ∧
    (∀ name ∈ byTexts.groupBy, name ∈ quotedTable.names) ∧
    (∀ a ∈ byTexts.aggregates, a.column ∈ quotedTable.names) ∧
    (∀ name ∈ byTexts.groupBy, name ∉ byTexts.aggregates.map Aggregate.key) ∧
    ∃ result, quotedTable.result byTexts = .ok result ∧
      List.Forall₂ (quotedTable.IsTupleRow byTexts) result.rows
        ((quotedTable.selection byTexts.filters).map
          (quotedTable.cellsAt byTexts.groupBy)).eraseDups ∧
      ∀ r ∈ quotedTable.selection byTexts.filters, ∀ r' ∈ quotedTable.selection byTexts.filters,
        (quotedTable.cellsAt byTexts.groupBy r = quotedTable.cellsAt byTexts.groupBy r' ↔
          ∀ name ∈ byTexts.groupBy,
            SameCell (quotedTable.readAt name r) (quotedTable.readAt name r')) :=
  ⟨by decide +kernel, rfl, by decide, by decide, by decide, by decide, by decide,
    rows_of_tuples (by decide +kernel) rfl (by decide) (by decide) (by decide) (by decide)
      (by decide)⟩

end Table

end Chartboard
