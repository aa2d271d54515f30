import Chartboard.View.Basic
import Chartboard.Wire.Query

/-!
# Written views and events

What can be told of a chart while it lives: how far it has come, its faults and its queries, and
the notices that its subscribers and hosts get.
-/

namespace Chartboard

open Json (Value)

namespace Phase

/-- The name of a phase. -/
def name : Phase → String
  | uninitialized => "uninitialized"
  | hydrating => "hydrating"
  | ready => "ready"
  | stale => "stale"
  | compiling _ => "compiling"
  | rendered _ => "render_ready"
  | failed => "error"
  | tornDown => "torn_down"

/-- A phase as its name, together with its generation if it has one. -/
def toJson (p : Phase) : Value :=
  match p with
  | compiling generation | rendered generation =>
    .array [.string p.name, Value.int generation]
  | _ => .string p.name

end Phase

/-- A fault as an object. -/
def ChartFault.toJson (f : ChartFault) : Value :=
  .object
    [("message", .string f.message),
     ("field", match f.field with
       | some field => .string field.name
       | none => .null),
     ("retryable", .bool f.retryable)]

/-- A query on its way as an object. -/
def PendingQuery.toJson (p : PendingQuery) : Value :=
  .object
    [("chart", .string p.chart.text),
     ("generation", Value.int p.generation),
     ("request", p.request.toJson)]

/-- A change of the filters as an object. -/
def FilterDelta.toJson (d : FilterDelta) : Value :=
  .object [("column", .string d.column), ("value", d.value)]

/-- An event as an object. -/
def Event.toJson : Event → Value
  | specChanged chart spec =>
    .object
      [("event", .string "SpecChanged"), ("chart", .string chart.text), ("spec", spec.toJson)]
  | crossFilterEmitted chart column value =>
    .object
      [("event", .string "CrossFilterEmitted"), ("chart", .string chart.text),
       ("column", .string column), ("value", value)]
  | chartRendered chart generation kind empty =>
    .object
      [("event", .string "ChartRendered"), ("chart", .string chart.text),
       ("generation", Value.int generation), ("chart_kind", kind.toJson),
       ("empty", .bool empty)]
  | chartFailed chart message retryable =>
    .object
      [("event", .string "ChartFailed"), ("chart", .string chart.text),
       ("message", .string message), ("retryable", .bool retryable)]

/-- What a subscriber is told as an object. -/
def SpecCall.toJson (c : SpecCall) : Value :=
  .object
    [("subscriber", .string c.subscriber), ("chart", .string c.chart.text),
     ("spec", c.spec.toJson)]

/-- A notice as an object. -/
def Notice.toJson : Notice → Value
  | told call => call.toJson
  | published event => event.toJson

end Chartboard
