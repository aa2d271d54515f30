import Chartboard.Chart.Kind
import Chartboard.Query.Request
import Chartboard.Render.Color

/-!
# Render models

A render model is what a chart draws, one shape for each way of drawing. Values that a response
does not give are gaps.
-/

namespace Chartboard

/-- The rows of a table chart. -/
structure TableModel where
  /-- The names of the columns. -/
  columns : List String
  /-- The rows that are shown. -/
  rows : List Row
  /-- The number of rows there are. -/
  totalRows : Nat
  deriving Inhabited

/-- Some rows are not shown. -/
def TableModel.isTruncated (m : TableModel) : Bool :=
  m.rows.length < m.totalRows

/-- A single figure. -/
structure KpiModel where
  /-- The key of the aggregate. -/
  key : String
  /-- The figure, unless the response has no number for it. -/
  value : Option Float
  deriving Inhabited, Repr

/-- One bin of a histogram. -/
structure HistogramBin where
  /-- The place of the bin on the axis. -/
  x : Float
  /-- The lower edge. -/
  start : Option Float
  /-- The upper edge. -/
  stop : Option Float
  /-- The number of values in the bin. -/
  count : Float
  deriving Inhabited, Repr

/-- The bins of a histogram. -/
structure HistogramModel where
  /-- The key of the frequencies. -/
  key : String
  /-- The bins in the order of the rows. -/
  bins : List HistogramBin
  deriving Inhabited, Repr

/-- One slice of a pie. -/
structure PieSlice where
  /-- The label of the group. -/
  label : String
  /-- The value of the group. -/
  value : Option Float
  /-- The colour, by the place of the slice. -/
  color : Rgb
  deriving Inhabited, Repr

/-- The slices of a pie. -/
structure PieModel where
  /-- The key of the aggregate. -/
  key : String
  /-- The slices in the order of the rows. -/
  slices : List PieSlice
  deriving Inhabited, Repr

/-- One stage of a funnel. -/
structure FunnelStage where
  /-- The label of the group. -/
  label : String
  /-- The value of the group. -/
  value : Option Float
  deriving Inhabited, Repr

/-- The stages of a funnel. -/
structure FunnelModel where
  /-- The key of the aggregate. -/
  key : String
  /-- The stages in the order of the rows. -/
  stages : List FunnelStage
  deriving Inhabited, Repr

/-- The values of one series, one for each category. -/
structure Series where
  /-- The name of the series. -/
  key : String
  /-- The values in the order of the categories. -/
  values : List (Option Float)
  /-- The colour, by the place of the series. -/
  color : Rgb
  /-- The class of each point, if points are coloured by their side of the mean. -/
  pointClasses : Option (List ColorClass) := none
  deriving Inhabited, Repr

/-- Bars, lines or areas. -/
structure CategoricalModel where
  /-- The kind of chart that draws the series. -/
  kind : ChartKind
  /-- The labels of the groups. -/
  categories : List String
  /-- The series. -/
  series : List Series
  /-- Series stand on top of each other. -/
  stacked : Bool
  deriving Inhabited, Repr

/-- There is exactly one series. -/
def CategoricalModel.isSingleSeries (m : CategoricalModel) : Bool :=
  m.series.length == 1

/-- Two series with an axis each. -/
structure DualAxisModel where
  /-- The labels of the groups. -/
  categories : List String
  /-- The series of the first axis. -/
  primary : Series
  /-- The series of the second axis. -/
  secondary : Series
  deriving Inhabited, Repr

/-- Why nothing is drawn. -/
inductive EmptyReason where
  /-- The response has no rows. -/
  | noData
  /-- The response lacks something. -/
  | malformed (detail : String)
  deriving DecidableEq, Repr, Inhabited

/-- A placeholder for a chart that cannot be drawn. -/
structure EmptyModel where
  /-- The kind of chart that is not drawn. -/
  kind : ChartKind
  /-- Why it is not drawn. -/
  reason : EmptyReason
  deriving DecidableEq, Repr, Inhabited

/-- The words in place of the chart. -/
def EmptyModel.placeholder (m : EmptyModel) : String :=
  match m.reason with
  | .noData => "No data"
  | .malformed _ => "This chart could not be drawn"

/-- What a chart draws. -/
inductive RenderModel where
  /-- Rows. -/
  | table (m : TableModel)
  /-- A single figure. -/
  | kpi (m : KpiModel)
  /-- Bins. -/
  | histogram (m : HistogramModel)
  /-- Slices. -/
  | pie (m : PieModel)
  /-- Stages. -/
  | funnel (m : FunnelModel)
  /-- Bars, lines or areas. -/
  | categorical (m : CategoricalModel)
  /-- Two axes. -/
  | dualAxis (m : DualAxisModel)
  /-- A placeholder. -/
  | empty (m : EmptyModel)
  deriving Inhabited

namespace RenderModel

/-- The kind of chart that draws a model. -/
def kind : RenderModel → ChartKind
  | table _ => .table
  | kpi _ => .kpi
  | histogram _ => .histogram
  | pie _ => .pie
  | funnel _ => .funnel
  | categorical m => m.kind
  | dualAxis _ => .dualAxis
  | empty m => m.kind

/-- The model is a placeholder. -/
def isEmpty : RenderModel → Bool
  | empty _ => true
  | _ => false

end RenderModel

/-! ## Colouring by the mean -/

namespace Series

/-- The mean of the values that are there; none if there are only gaps. -/
def mean (s : Series) : Option Float :=
  match s.values.filterMap id with
  | [] => none
  | values => some (values.foldl (· + ·) 0.0 / Float.ofNat values.length)

/-- The class of a point, given the mean. -/
def classOf (mean : Float) : Option Float → ColorClass
  | some v => if mean ≤ v then .above else .below
  | none => .neutral

/-- The series with a class for each point, or with none if there are only gaps. -/
def classified (s : Series) : Series :=
  { s with pointClasses := s.mean.map fun mean => s.values.map (classOf mean) }

end Series

namespace RenderModel

/-- Classes for the points of bars that are the only series; any other model stays as it is. -/
def colorize (enabled : Bool) : RenderModel → RenderModel
  | categorical m =>
    if enabled && m.kind == .bar && m.isSingleSeries then
      categorical { m with series := m.series.map Series.classified }
    else categorical m
  | m => m

end RenderModel

end Chartboard
