import Chartboard.Chart.Filter
import Chartboard.Chart.Spec
import Chartboard.Ledger

/-!
# Queries and their answers

A request asks for aggregates of groups, for the bins of one column or for plain rows. A response
holds rows of named values in the order in which they are to be shown.
-/

namespace Chartboard

open Json (Value)

/-- A result column to sort by. -/
structure SortClause where
  /-- The name of the column in the result. -/
  column : String
  /-- The direction. -/
  order : SortOrder := .asc
  deriving DecidableEq, Repr, Inhabited

/-- A question about a data set. -/
structure Request where
  /-- The columns whose values tell the groups apart. -/
  groupBy : List String := []
  /-- What is computed for each group. -/
  aggregates : List Aggregate := []
  /-- The sorts, the first one being decisive. -/
  sortBy : List SortClause := []
  /-- The filters that every counted row passes. -/
  filters : List Filter := []
  /-- The greatest number of rows in the answer; zero for all. -/
  limit : Nat := 0
  /-- The first aggregate's column is to be binned. -/
  isHistogram : Bool := false
  /-- The number of bins. -/
  bins : Option Nat := none
  deriving Inhabited, Repr

/-- A row of an answer: named values in the order of their columns. -/
abbrev Row := Ledger String Value

/-- The answer to a request. -/
structure Response where
  /-- The rows to be shown. -/
  rows : List Row := []
  /-- How many rows there were before the limit, if that is known. -/
  totalRows : Option Nat := none
  /-- The names of the columns; none where the rows speak for themselves. -/
  columns : List String := []
  deriving Inhabited

namespace Response

/-- There are no rows. -/
def isEmpty (r : Response) : Bool :=
  r.rows.isEmpty

/-- The names of the columns: those reported, or else those of the first row. -/
def columnNames (r : Response) : List String :=
  if r.columns.isEmpty then
    match r.rows with
    | [] => []
    | row :: _ => row.keys
  else r.columns

/-- The number of rows before the limit, which is never below the number of rows shown. -/
def rowCount (r : Response) : Nat :=
  max (r.totalRows.getD r.rows.length) r.rows.length

end Response

end Chartboard
