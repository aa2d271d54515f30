import Chartboard.Chart.Spec
import Chartboard.Query.Scalar
import Chartboard.Render.Model

/-!
# Adapted responses

A response becomes a render model of a given kind. The fields are found under the keys that the
specification implies. Rows of bars, lines and areas are spread over a grid of categories and
series, both in the order in which they first come.
-/

namespace Chartboard

open Json (Value)

/-- Why a response cannot be drawn. -/
inductive AdaptError where
  /-- There are no rows. -/
  | emptyResult (kind : ChartKind)
  /-- A field is lacking, in the specification or in a row. -/
  | malformedResponse (kind : ChartKind) (field : String)
  deriving DecidableEq, Repr

namespace AdaptError

/-- The message for the user. -/
def message : AdaptError → String
  | emptyResult kind => s!"no data for {kind.name} chart"
  | malformedResponse kind field => s!"{kind.name} response is missing field '{field}'"

/-- The placeholder that stands in for the chart. -/
def placeholder : AdaptError → RenderModel
  | emptyResult kind => .empty ⟨kind, .noData⟩
  | malformedResponse kind field => .empty ⟨kind, .malformed s!"missing field '{field}'"⟩

end AdaptError

/-- A grid of categories and series, both in the order in which they first came. -/
structure Pivot where
  /-- The categories. -/
  categories : Ledger String Unit := ∅
  /-- The values of each series by category. -/
  series : Ledger String (Ledger String (Option Float)) := ∅

namespace Pivot

/-- Makes a category known. -/
def touch (p : Pivot) (category : String) : Pivot :=
  { p with categories := p.categories.insert category () }

/-- Writes a value into the grid, over an earlier one in the same place. -/
def set (p : Pivot) (category series : String) (value : Option Float) : Pivot :=
  let values := (p.series.get? series).getD ∅
  { p with series := p.series.insert series (values.insert category value) }

/-- Writes the values of a row of the grid. -/
def addRow (p : Pivot) (row : String × List (String × Option Float)) : Pivot :=
  row.2.foldl (fun p cell => p.set row.1 cell.1 cell.2) (p.touch row.1)

/-- The grid of some rows, each a category with values of some series. -/
def ofRows (rows : List (String × List (String × Option Float))) : Pivot :=
  rows.foldl addRow {}

/-- The values of a series in the order of the categories. -/
def aligned (p : Pivot) (values : Ledger String (Option Float)) : List (Option Float) :=
  p.categories.keys.map fun category => (values.get? category).join

/-- The series in order, each with its colour. -/
def toSeries (p : Pivot) : List Series :=
  p.series.entries.zipIdx.map fun ((key, values), index) =>
    { key, values := p.aligned values, color := Rgb.ofIndex index }

end Pivot

/-- A field that has to be set in the specification. -/
def Spec.needed (kind : ChartKind) (field : SpecField) (value : Option String) :
    Except AdaptError String :=
  match value with
  | some v => .ok v
  | none => .error (.malformedResponse kind field.name)

namespace Row

/-- The value under a key, which has to be there. -/
def cell (kind : ChartKind) (row : Row) (key : String) : Except AdaptError Value :=
  match row.get? key with
  | some v => .ok v
  | none => .error (.malformedResponse kind key)

/-- The number under a key; what is no number is a gap. -/
def numberAt (kind : ChartKind) (row : Row) (key : String) : Except AdaptError (Option Float) :=
  Value.asNumber? <$> cell kind row key

/-- The label under a key. -/
def labelAt (kind : ChartKind) (row : Row) (key : String) : Except AdaptError String :=
  Value.label <$> cell kind row key

/-- The number under a key, if there is one. -/
def number? (row : Row) (key : String) : Option Float :=
  (row.get? key).bind Value.asNumber?

end Row

namespace RenderModel

/-- The first rows up to the display cap, and the number of all rows. -/
def tableOf (displayCap : Nat) (r : Response) : RenderModel :=
  .table ⟨r.columnNames, r.rows.take displayCap, r.rowCount⟩

/-- The figure of the first row. -/
def kpiOf (s : Spec) (rows : List Row) : Except AdaptError RenderModel := do
  let key ← Spec.needed .kpi .valueColumn s.valueKey
  match rows with
  | [] => throw (.malformedResponse .kpi key)
  | row :: _ => pure (.kpi ⟨key, ← Row.numberAt .kpi row key⟩)

/-- One bin for a row, at the number in the binned column or in the middle of its edges. -/
def binOf (column : String) (row : Row) : Except AdaptError HistogramBin := do
  let key := histogramCountKey column
  let some count := Row.number? row key | throw (.malformedResponse .histogram key)
  let start := Row.number? row binStartKey
  let stop := Row.number? row binEndKey
  let middle := match start, stop with
    | some a, some b => some ((a + b) / 2.0)
    | _, _ => none
  let some x := (Row.number? row column).or middle | throw (.malformedResponse .histogram column)
  pure ⟨x, start, stop, count⟩

/-- One bin for each row. -/
def histogramOf (s : Spec) (rows : List Row) : Except AdaptError RenderModel := do
  let column ← Spec.needed .histogram .valueColumn s.valueColumn
  pure (.histogram ⟨histogramCountKey column, ← rows.mapM (binOf column)⟩)

/-- One slice for each row. -/
def pieOf (s : Spec) (rows : List Row) : Except AdaptError RenderModel := do
  let key ← Spec.needed .pie .valueColumn s.valueKey
  let groupBy ← Spec.needed .pie .groupBy s.groupBy
  let slices ← rows.zipIdx.mapM fun (row, index) => do
    let label ← Row.labelAt .pie row groupBy
    let value ← Row.numberAt .pie row key
    pure ⟨label, value, Rgb.ofIndex index⟩
  pure (.pie ⟨key, slices⟩)

/-- One stage for each row. -/
def funnelOf (s : Spec) (rows : List Row) : Except AdaptError RenderModel := do
  let key ← Spec.needed .funnel .valueColumn s.valueKey
  let groupBy ← Spec.needed .funnel .groupBy s.groupBy
  let stages ← rows.mapM fun row => do
    let label ← Row.labelAt .funnel row groupBy
    let value ← Row.numberAt .funnel row key
    pure ⟨label, value⟩
  pure (.funnel ⟨key, stages⟩)

/-- A row of a chart without series: its category and its value. -/
def plainRow (kind : ChartKind) (groupBy key : String) (row : Row) :
    Except AdaptError (String × List (String × Option Float)) := do
  let category ← Row.labelAt kind row groupBy
  let value ← Row.numberAt kind row key
  pure (category, [(key, value)])

/-- A row of the long shape: its category, its series and its value. -/
def longRow (kind : ChartKind) (groupBy subGroup key : String) (row : Row) :
    Except AdaptError (String × List (String × Option Float)) := do
  let category ← Row.labelAt kind row groupBy
  let series ← Row.labelAt kind row subGroup
  let value ← Row.numberAt kind row key
  pure (category, [(series, value)])

/-- A row of the wide shape: its category and a value for every other key. -/
def wideRow (kind : ChartKind) (groupBy : String) (row : Row) :
    Except AdaptError (String × List (String × Option Float)) := do
  let category ← Row.labelAt kind row groupBy
  let cells := (row.entries.filter fun e => e.1 ≠ groupBy).map fun e => (e.1, e.2.asNumber?)
  pure (category, cells)

/-- Bars, lines or areas. With a series column, rows that all have it are of the long shape and
others of the wide shape. -/
def categoricalOf (kind : ChartKind) (s : Spec) (rows : List Row) :
    Except AdaptError RenderModel := do
  let key ← Spec.needed kind .valueColumn s.valueKey
  let groupBy ← Spec.needed kind .groupBy s.groupBy
  let gridRows ← match s.effectiveSubGroup with
    | none => rows.mapM (plainRow kind groupBy key)
    | some subGroup =>
      if rows.all fun row => row.contains subGroup then
        rows.mapM (longRow kind groupBy subGroup key)
      else rows.mapM (wideRow kind groupBy)
  let pivot := Pivot.ofRows gridRows
  pure (.categorical {
    kind
    categories := pivot.categories.keys
    series := pivot.toSeries
    stacked := s.stacked && kind.supportsStacking && s.effectiveSubGroup.isSome })

/-- Two series with a value for each row. -/
def dualAxisOf (s : Spec) (rows : List Row) : Except AdaptError RenderModel := do
  let primaryKey ← Spec.needed .dualAxis .valueColumn s.valueKey
  let secondaryKey ← Spec.needed .dualAxis .secondaryValueColumn s.secondaryKey
  let groupBy ← Spec.needed .dualAxis .groupBy s.groupBy
  let points ← rows.mapM fun row => do
    let category ← Row.labelAt .dualAxis row groupBy
    let primary ← Row.numberAt .dualAxis row primaryKey
    let secondary ← Row.numberAt .dualAxis row secondaryKey
    pure (category, primary, secondary)
  pure (.dualAxis {
    categories := points.map (·.1)
    primary := { key := primaryKey, values := points.map (·.2.1), color := Rgb.ofIndex 0 }
    secondary := { key := secondaryKey, values := points.map (·.2.2), color := Rgb.ofIndex 1 } })

/-- The default number of rows that a table shows. -/
def defaultDisplayCap : Nat := 100

/-- What a chart of a given kind draws for a response. -/
def ofResponse (displayCap : Nat) (kind : ChartKind) (s : Spec) (r : Response) :
    Except AdaptError RenderModel :=
  if r.isEmpty then .error (.emptyResult kind)
  else
    match kind with
    | .table => .ok (tableOf displayCap r)
    | .kpi => kpiOf s r.rows
    | .histogram => histogramOf s r.rows
    | .pie => pieOf s r.rows
    | .funnel => funnelOf s r.rows
    | .bar | .line | .area => categoricalOf kind s r.rows
    | .dualAxis => dualAxisOf s r.rows

end RenderModel

end Chartboard
