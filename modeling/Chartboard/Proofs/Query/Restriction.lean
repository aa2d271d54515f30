import Chartboard.Proofs.Query.Running

/-!
# Filtered tables

A query with filters has the answer that the same query without them has from a smaller table, which
keeps just the rows that match. The answer is therefore the same in whatever order the filters stand
and however often they are repeated, and some of them may be applied before the others.
-/

namespace Chartboard.Table

open Outcome

variable {t t' : Table} {request : Request}

/-- The table of the rows whose cells match some filters, in their order. -/
def matching (t : Table) (filters : List Filter) : Table where
  columns := t.columns
  records := t.records.filter fun record =>
    filters.all fun f => (t.readAt f.column record).matchesFilter f.value

/-- Restricting the records of a table does not change which records pass a filter. -/
theorem agrees_matching (t : Table) (filters others : List Filter) :
    (t.matching filters).agrees others = t.agrees others :=
  rfl

/-- Where all filters are on columns that are there, they keep the rows whose cells match them. -/
theorem agrees_eq_all {filters : List Filter} (h : ∀ f ∈ filters, f.column ∈ t.names)
    (record : Record) :
    t.agrees filters record =
      filters.all fun f => (t.readAt f.column record).matchesFilter f.value := by
  induction filters with
  | nil => rfl
  | cons f rest ih =>
    have hfirst := agrees_singleton (h f List.mem_cons_self) record
    have hrest := ih fun g hg => h g (List.mem_cons_of_mem f hg)
    have hsplit := t.agrees_append [f] rest record
    rw [List.singleton_append] at hsplit
    rw [hsplit, hfirst, hrest, List.all_cons]

/-- The restricted table has the selected records. -/
theorem records_matching {filters : List Filter} (h : ∀ f ∈ filters, f.column ∈ t.names) :
    (t.matching filters).records = t.selection filters := by
  refine List.filter_congr fun record _ => ?_
  rw [agrees_eq_all h]

/-- What is selected from a filtered table agrees with the filters of both. -/
theorem selection_matching {first second : List Filter}
    (h : ∀ f ∈ first, f.column ∈ t.names) :
    (t.matching first).selection second = t.selection (first ++ second) := by
  have hrecords := records_matching h
  have hagrees := agrees_matching t first second
  have happend := t.selection_append first second
  rw [happend, ← hrecords, ← hagrees]
  rfl

/-! ## Selected rows and columns decide -/

/-- Each way to answer a query looks at the rows of the table through those that are selected
alone: tables with the same columns have the same result for the same selected rows. -/
theorem result_of_columns (hcolumns : t'.columns = t.columns) {others : List Filter}
    (hknown : ∀ f ∈ request.filters, f.column ∈ t.names)
    (hothers : ∀ f ∈ others, f.column ∈ t.names)
    (hselection : t'.selection others = t.selection request.filters) :
    t'.result { request with filters := others } = t.result request := by
  have hnames : t'.names = t.names := congrArg (List.map Column.name) hcolumns
  have hfound : ∀ f ∈ others, f.column ∈ t'.names := by
    rw [hnames]
    exact hothers
  have hhistogram : t'.histogram { request with filters := others } = t.histogram request := by
    cases t
    cases t'
    cases hcolumns
    rfl
  have hgrouped : t'.grouped { request with filters := others } = t.grouped request := by
    cases t
    cases t'
    cases hcolumns
    rfl
  have hoverall : t'.overall { request with filters := others } = t.overall request := by
    cases t
    cases t'
    cases hcolumns
    rfl
  have hplain : t'.plain = t.plain := by
    cases t
    cases t'
    cases hcolumns
    rfl
  rw [result_of_known hknown, result_of_known hfound, hselection, hhistogram, hgrouped, hoverall,
    hplain]

/-- The filters of a request play no part once the result is there. -/
theorem answer_filters (request : Request) (others : List Filter) (result : ResultSet) :
    answer { request with filters := others } result = answer request result :=
  rfl

/-- Tables with the same columns answer alike where their filters select the same records. -/
theorem run_of_columns (hcolumns : t'.columns = t.columns) {others : List Filter}
    (hknown : ∀ f ∈ request.filters, f.column ∈ t.names)
    (hothers : ∀ f ∈ others, f.column ∈ t.names)
    (hselection : t'.selection others = t.selection request.filters) :
    t'.run { request with filters := others } = t.run request := by
  have hresult := result_of_columns hcolumns hknown hothers hselection
  have hanswer : answer { request with filters := others } = answer request :=
    funext (answer_filters request others)
  rw [run_eq, run_eq, hresult, hanswer]

/-! ## Filters in other forms -/

/-- Filters that are the same apart from their order and repetitions keep the same rows. -/
theorem selection_congr {filters others : List Filter} (h : ∀ f, f ∈ others ↔ f ∈ filters) :
    t.selection others = t.selection filters := by
  have hagrees : ∀ record, t.agrees others record = t.agrees filters record := by
    intro record
    unfold agrees
    rw [Bool.eq_iff_iff, List.all_eq_true, List.all_eq_true]
    exact forall_congr' fun f => imp_congr (h f) Iff.rfl
  exact List.filter_congr fun record _ => hagrees record

/-- A query whose filters are on columns that are there is answered as from the table that keeps
just the rows matching them. The order and the repetition of its filters do not count, and its first
filters can be applied to the table beforehand. -/
theorem run_eq_run_matching (hknown : ∀ f ∈ request.filters, f.column ∈ t.names) :
    t.run request = (t.matching request.filters).run { request with filters := [] } ∧
    (∀ others, (∀ f, f ∈ others ↔ f ∈ request.filters) →
      t.run { request with filters := others } = t.run request) ∧
    ∀ first second, first ++ second = request.filters →
      t.run request = (t.matching first).run { request with filters := second } := by
  have hstages : ∀ first second, first ++ second = request.filters →
      t.run request = (t.matching first).run { request with filters := second } := by
    intro first second hfilters
    have hmem : ∀ f ∈ first ++ second, f.column ∈ t.names := by
      rw [hfilters]
      exact hknown
    have hfirst : ∀ f ∈ first, f.column ∈ t.names := fun f hf =>
      hmem f (List.mem_append_left second hf)
    have hsecond : ∀ f ∈ second, f.column ∈ t.names := fun f hf =>
      hmem f (List.mem_append_right first hf)
    have hcolumns : (t.matching first).columns = t.columns := rfl
    have hselection : (t.matching first).selection second = t.selection request.filters := by
      rw [← hfilters]
      exact selection_matching hfirst
    exact (run_of_columns hcolumns hknown hsecond hselection).symm
  refine ⟨hstages request.filters [] (List.append_nil _), ?_, hstages⟩
  intro others hsame
  have hothers : ∀ f ∈ others, f.column ∈ t.names := fun f hf => hknown f ((hsame f).1 hf)
  exact run_of_columns rfl hknown hothers (selection_congr hsame)

/-! ## A column that can be binned in part -/

/-- Amounts that were entered as texts, one of which is no number. -/
def enteredTable : Table where
  columns := [⟨"region", .text⟩, ⟨"amount", .text⟩, ⟨"open", .bool⟩]
  records :=
    [[.text "East", .text "12", .bool true],
     [.text "West", .text "unknown", .bool true],
     [.text "East", .text " 3e1", .bool true],
     [.text "East", .text "14", .bool false]]

/-- The amounts of the open shops in the East in two bins. The filter on the region is repeated. -/
def eastAmounts : Request where
  aggregates := [⟨"amount", .count⟩]
  filters := [⟨"region", .string "East"⟩, ⟨"open", .bool true⟩, ⟨"region", .string "East"⟩]
  isHistogram := true
  bins := some 2

/-- Only the rows that are left can make a column one that cannot be binned. -/
theorem run_eq_run_matching_eastAmounts :
    (∀ f ∈ eastAmounts.filters, f.column ∈ enteredTable.names) ∧
    enteredTable.run { eastAmounts with filters := [] } = .error (.notNumeric "amount") ∧
    (enteredTable.matching eastAmounts.filters).records =
      [[.text "East", .text "12", .bool true], [.text "East", .text " 3e1", .bool true]] ∧
    enteredTable.run eastAmounts =
      (enteredTable.matching eastAmounts.filters).run { eastAmounts with filters := [] } ∧
    enteredTable.run { eastAmounts with
      filters := [⟨"open", .bool true⟩, ⟨"region", .string "East"⟩] } =
        enteredTable.run eastAmounts ∧
    enteredTable.run eastAmounts =
      (enteredTable.matching [⟨"region", .string "East"⟩]).run { eastAmounts with
        filters := [⟨"open", .bool true⟩, ⟨"region", .string "East"⟩] } := by
  have hknown : ∀ f ∈ eastAmounts.filters, f.column ∈ enteredTable.names := by decide
  have hsame : ∀ f : Filter, f ∈ [⟨"open", .bool true⟩, ⟨"region", .string "East"⟩] ↔
      f ∈ eastAmounts.filters := by
    intro f
    simp only [eastAmounts, List.mem_cons, List.not_mem_nil, or_false]
    tauto
  obtain ⟨hwhole, horder, hstages⟩ := run_eq_run_matching hknown
  exact ⟨hknown, rfl, rfl, hwhole, horder _ hsame, hstages [⟨"region", .string "East"⟩] _ rfl⟩

end Chartboard.Table
