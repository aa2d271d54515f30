import Chartboard.Render.Adapt
import Chartboard.Wire.Query

/-!
# Written render models

A model is an object that names its shape under `model`. A gap is null; what a model does not have
is left out.
-/

namespace Chartboard

open Json (Value)

/-- A value that may be a gap. -/
def Json.Value.ofGap : Option Float → Value
  | some x => .ofFloat x
  | none => .null

/-- A colour as its hexadecimal text. -/
def Rgb.toJson (c : Rgb) : Value := .string c.hex

/-- A series as an object. -/
def Series.toJson (s : Series) : Value :=
  .object
    ([("key", .string s.key), ("values", .array (s.values.map Value.ofGap)),
      ("color", s.color.toJson)]
      ++ Value.optionalMember "point_classes"
        (s.pointClasses.map fun classes => .array (classes.map fun c => .string c.name)))

/-- A bin as an object. -/
def HistogramBin.toJson (b : HistogramBin) : Value :=
  .object
    ([("x", .ofFloat b.x)]
      ++ Value.optionalMember "start" (b.start.map .ofFloat)
      ++ Value.optionalMember "end" (b.stop.map .ofFloat)
      ++ [("count", .ofFloat b.count)])

/-- A slice as an object. -/
def PieSlice.toJson (s : PieSlice) : Value :=
  .object [("label", .string s.label), ("value", .ofGap s.value), ("color", s.color.toJson)]

/-- A stage as an object. -/
def FunnelStage.toJson (s : FunnelStage) : Value :=
  .object [("label", .string s.label), ("value", .ofGap s.value)]

/-- The reason for a placeholder as members. -/
def EmptyReason.members : EmptyReason → List (String × Value)
  | noData => [("reason", .string "no_data")]
  | malformed detail => [("reason", .string "malformed"), ("detail", .string detail)]

namespace RenderModel

/-- A model as an object. -/
def toJson : RenderModel → Value
  | table m =>
    .object [("model", .string "table"), ("columns", .array (m.columns.map .string)),
      ("rows", .array (m.rows.map Row.toJson)), ("total_rows", Value.int m.totalRows)]
  | kpi m =>
    .object [("model", .string "kpi"), ("key", .string m.key), ("value", .ofGap m.value)]
  | histogram m =>
    .object [("model", .string "histogram"), ("key", .string m.key),
      ("bins", .array (m.bins.map HistogramBin.toJson))]
  | pie m =>
    .object [("model", .string "pie"), ("key", .string m.key),
      ("slices", .array (m.slices.map PieSlice.toJson))]
  | funnel m =>
    .object [("model", .string "funnel"), ("key", .string m.key),
      ("stages", .array (m.stages.map FunnelStage.toJson))]
  | categorical m =>
    .object [("model", .string "categorical"), ("chart_kind", .string m.kind.name),
      ("categories", .array (m.categories.map .string)),
      ("series", .array (m.series.map Series.toJson)), ("stacked", .bool m.stacked)]
  | dualAxis m =>
    .object [("model", .string "dual_axis"), ("categories", .array (m.categories.map .string)),
      ("primary", m.primary.toJson), ("secondary", m.secondary.toJson)]
  | empty m =>
    .object ([("model", .string "empty"), ("chart_kind", .string m.kind.name)] ++ m.reason.members)

end RenderModel

end Chartboard
