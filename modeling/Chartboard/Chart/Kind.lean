/-!
# Kinds of charts

The nine kinds of charts, what each of them takes, and the functions and orders that a chart can
ask for. Every one of them has a name of its own.
-/

namespace Chartboard

/-- The kinds of charts. -/
inductive ChartKind where
  /-- One bar for each group, or one for each group and series. -/
  | bar
  /-- One line for each series. -/
  | line
  /-- One area for each series. -/
  | area
  /-- One slice for each group. -/
  | pie
  /-- The result rows as they are. -/
  | table
  /-- One figure. -/
  | kpi
  /-- The frequencies of the bins of one numeric column. -/
  | histogram
  /-- One stage for each group, the largest first unless asked otherwise. -/
  | funnel
  /-- Two values for each group, on an axis each. -/
  | dualAxis
  deriving DecidableEq, Repr, Inhabited

namespace ChartKind

/-- All kinds, in the order in which they are offered. -/
def all : List ChartKind :=
  [bar, line, area, pie, table, kpi, histogram, funnel, dualAxis]

/-- The written name of a kind. -/
def name : ChartKind → String
  | bar => "bar"
  | line => "line"
  | area => "area"
  | pie => "pie"
  | table => "table"
  | kpi => "kpi"
  | histogram => "histogram"
  | funnel => "funnel"
  | dualAxis => "dual_axis"

/-- The chart has an axis of groups. Tables and figures do without one, and the axis of a
histogram is its value column. -/
def requiresGroupBy : ChartKind → Bool
  | table | kpi | histogram => false
  | _ => true

/-- A second grouping column splits the chart into series. -/
def supportsSubGroup : ChartKind → Bool
  | bar | line | area => true
  | _ => false

/-- Series can be put on top of each other. -/
def supportsStacking : ChartKind → Bool
  | bar | area => true
  | _ => false

/-- Selecting a point filters the other charts. -/
def supportsPointSelection : ChartKind → Bool
  | bar | line => true
  | _ => false

end ChartKind

/-- How the values of a group become one. -/
inductive Aggregation where
  /-- Their sum. -/
  | sum
  /-- Their mean. -/
  | avg
  /-- How many there are. -/
  | count
  /-- The least. -/
  | min
  /-- The greatest. -/
  | max
  deriving DecidableEq, Repr, Inhabited

namespace Aggregation

/-- All functions, in the order in which they are offered. -/
def all : List Aggregation := [sum, avg, count, min, max]

/-- The written name of a function. -/
def name : Aggregation → String
  | sum => "sum"
  | avg => "avg"
  | count => "count"
  | min => "min"
  | max => "max"

/-- Only counting makes sense of values that are no numbers. -/
def requiresNumeric : Aggregation → Bool
  | count => false
  | _ => true

end Aggregation

/-- The direction of a sort. -/
inductive SortOrder where
  /-- The smallest first. -/
  | asc
  /-- The largest first. -/
  | desc
  deriving DecidableEq, Repr, Inhabited

namespace SortOrder

/-- Both directions. -/
def all : List SortOrder := [asc, desc]

/-- The written name of a direction. -/
def name : SortOrder → String
  | asc => "asc"
  | desc => "desc"

end SortOrder

/-- A function applied to a column. -/
structure Aggregate where
  /-- The column that is aggregated. -/
  column : String
  /-- The function that is applied. -/
  function : Aggregation
  deriving DecidableEq, Repr, Inhabited

/-- The name of the result column. No function's name has an underscore, so the last underscore
separates the column from the function and different aggregates have different keys. -/
def Aggregate.key (a : Aggregate) : String :=
  a.column ++ "_" ++ a.function.name

/-- The name of the frequencies in the bins of a column. -/
def histogramCountKey (column : String) : String :=
  Aggregate.key ⟨column, .count⟩

/-- The name of the lower edge of a bin. -/
def binStartKey : String := "bin_start"

/-- The name of the upper edge of a bin. -/
def binEndKey : String := "bin_end"

end Chartboard
