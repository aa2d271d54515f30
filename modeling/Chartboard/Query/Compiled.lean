import Chartboard.Chart.Validation
import Chartboard.Query.Request

/-!
# Compiled queries

A specification and a filter set determine the request that a chart sends. Column names go into
the request as they are written; whoever compiles without validating first gets an error only for
a field that is unset.
-/

namespace Chartboard

/-- The limits that compiled requests carry. -/
structure QueryLimits where
  /-- The limit of all charts but the single figures. -/
  rows : Nat := 1000
  /-- The limit of a single figure. -/
  kpi : Nat := 1
  deriving DecidableEq, Repr, Inhabited

namespace Spec

/-- A column field as it is written, which must hold more than blanks. -/
def presentColumn (value : Option String) (field : SpecField) : Except ValidationError String :=
  match value with
  | some column => if Text.isBlankText column then .error (.missingField field) else .ok column
  | none => .error (.missingField field)

/-- A column field as it is written, or nothing if it holds only blanks. -/
def writtenColumn? (value : Option String) : List String :=
  value.toList.filter fun column => !Text.isBlankText column

/-- The grouping columns of the request: the groups and then the series. -/
def groupColumns (s : Spec) : Except ValidationError (List String) :=
  match s.kind with
  | .kpi => .ok []
  | .table => .ok (writtenColumn? s.groupBy ++ writtenColumn? s.effectiveSubGroup)
  | _ => do
    let column ← presentColumn s.groupBy .groupBy
    pure (column :: writtenColumn? s.effectiveSubGroup)

/-- The aggregates of the request: the value and, with two axes, the second value. -/
def requestAggregates (s : Spec) (value : String) : Except ValidationError (List Aggregate) :=
  if s.kind = .dualAxis then do
    let secondary ← presentColumn s.secondaryValueColumn .secondaryValueColumn
    pure [⟨value, s.aggregation⟩, ⟨secondary, s.aggregation⟩]
  else .ok [⟨value, s.aggregation⟩]

/-- The sort of the request, always by the value. A funnel is sorted even when no sort is set. -/
def requestSort (s : Spec) (value : String) : List SortClause :=
  let order := match s.kind, s.sort with
    | .kpi, _ => none
    | _, some sorting => some sorting.order
    | .funnel, none => some .desc
    | _, none => none
  (order.map fun order => ⟨Aggregate.key ⟨value, s.aggregation⟩, order⟩).toList

/-- The request of a chart. -/
def compile (s : Spec) (limits : QueryLimits) (filters : FilterSet) :
    Except ValidationError Request := do
  let value ← presentColumn s.valueColumn .valueColumn
  if s.kind = .histogram then
    match s.bins with
    | none => throw (.missingField .bins)
    | some bins =>
      pure {
        aggregates := [⟨value, .count⟩]
        filters := filters.toFilters
        limit := limits.rows
        isHistogram := true
        bins := some bins }
  else
    let groupBy ← s.groupColumns
    let aggregates ← s.requestAggregates value
    pure {
      groupBy
      aggregates
      sortBy := s.requestSort value
      filters := filters.toFilters
      limit := if s.kind = .kpi then limits.kpi else limits.rows }

end Spec

end Chartboard
