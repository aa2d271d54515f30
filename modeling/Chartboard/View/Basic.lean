import Chartboard.Chart.Validation
import Chartboard.Query.Compiled
import Chartboard.Query.Execute
import Chartboard.Render.Adapt
import Chartboard.View.Turn

/-!
# Chart views

A chart view holds what one chart is made of and how far it has come. Queries are numbered, and
the number of the last one that was sent is the generation of the view.
-/

namespace Chartboard

/-- How far a chart has come. -/
inductive Phase where
  /-- Not mounted yet. -/
  | uninitialized
  /-- Being mounted. -/
  | hydrating
  /-- Mounted, and nothing has been sent yet. -/
  | ready
  /-- Something has changed since the last query. -/
  | stale
  /-- A query is on its way. -/
  | compiling (generation : Nat)
  /-- The answer to a query is shown. -/
  | rendered (generation : Nat)
  /-- An error is shown. -/
  | failed
  /-- Removed. -/
  | tornDown
  deriving DecidableEq, Repr, Inhabited

/-- What is shown to the user when a chart cannot be drawn. -/
structure ChartFault where
  /-- The message. -/
  message : String
  /-- The field that the user has to change. -/
  field : Option SpecField
  /-- Trying the same specification again may help. -/
  retryable : Bool
  deriving DecidableEq, Repr, Inhabited

namespace ChartFault

/-- The fault of a specification that does not pass the checks. -/
def ofValidation (e : ValidationError) : ChartFault :=
  { message := e.message, field := some e.field, retryable := false }

/-- The fault of a query that failed. -/
def ofQuery (e : QueryError) : ChartFault :=
  { message := e.message ++ ". Refresh to try again.", field := none, retryable := true }

end ChartFault

/-- A query on its way. -/
structure PendingQuery where
  /-- The chart that asks. -/
  chart : Uuid
  /-- The number of the query. -/
  generation : Nat
  /-- What is asked. -/
  request : Request
  deriving Inhabited

/-- A chart with all that it depends on and shows. -/
structure ChartView where
  /-- The identifier of the chart. -/
  id : Uuid
  /-- How far the chart has come. -/
  phase : Phase := .uninitialized
  /-- The specification. -/
  spec : Spec := {}
  /-- A kept specification has been taken over, or an edit has made it too late for that. -/
  hydrated : Bool := false
  /-- The filters that queries carry. -/
  filters : FilterSet := ∅
  /-- The columns of the data set. -/
  catalog : Catalog := {}
  /-- The limits that queries carry. -/
  limits : QueryLimits := {}
  /-- The number of rows that a table shows. -/
  displayCap : Nat := RenderModel.defaultDisplayCap
  /-- The number of the last query that was sent: a natural number, with which a counter of 64 bits
  agrees below `2 ^ 64` polls. -/
  generation : Nat := 0
  /-- What is drawn. -/
  render : Option RenderModel := none
  /-- The error or the hint that is shown. -/
  fault : Option ChartFault := none
  /-- Who follows the specification. -/
  subscribers : Subscribers := {}
  /-- There is somebody to publish events to. -/
  publishes : Bool := false
  deriving Inhabited

namespace ChartView

/-- Why the chart refuses calls, if it does. -/
def refusal? (v : ChartView) : Option Refusal :=
  match v.phase with
  | .tornDown => some (.tornDown v.id)
  | .uninitialized => some (.notMounted v.id)
  | _ => none

/-- A call that only a mounted chart takes. -/
def whenLive {α : Type} (v : ChartView) (turn : Turn ChartView α) : Turn ChartView α :=
  match v.refusal? with
  | some refusal => .refused v refusal
  | none => turn

/-- Notes that something has changed since the last query. -/
def markStale (v : ChartView) : ChartView :=
  match v.phase with
  | .ready | .compiling _ | .rendered _ | .failed => { v with phase := .stale }
  | _ => v

/-- The chart waits for its next query to be sent. -/
def awaitsQuery (v : ChartView) : Bool :=
  v.phase == .ready || v.phase == .stale

/-- The query that the chart would send now. -/
def nextRequest (v : ChartView) : Except ValidationError Request := do
  v.spec.validate v.catalog
  v.spec.compile v.limits v.filters

/-- What the chart draws for a response. -/
def draw (v : ChartView) (response : Response) : RenderModel :=
  match RenderModel.ofResponse v.displayCap v.spec.kind v.spec response with
  | .ok model => model.colorize v.spec.colorsByMean
  | .error e => e.placeholder

/-- The notice of an event, if there is somebody to publish it to. -/
def publish (v : ChartView) (event : Event) : List Notice :=
  if v.publishes then [.published event] else []

/-- The notices of a changed specification: first the subscribers and then the event. -/
def broadcast (v : ChartView) : List Notice :=
  (v.subscribers.notify v.id v.spec).map .told ++ v.publish (.specChanged v.id v.spec)

end ChartView

end Chartboard
