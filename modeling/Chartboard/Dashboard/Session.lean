import Chartboard.Dashboard.Document
import Chartboard.Dashboard.SharedFilters
import Chartboard.View.Lifecycle

/-!
# Sessions

A session is a dashboard that is open: its charts in order, and the filters that they share. A
selected point changes the shared filters, and from there every chart that follows them.
-/

namespace Chartboard

open Json (Value)

/-- An open dashboard. -/
structure Session where
  /-- The identifier under which the dashboard is stored, once it is. -/
  id : Option Uuid := none
  /-- The name that users see. -/
  name : String
  /-- The data set that the charts query. -/
  datasetId : String
  /-- The layout; null if there is none. -/
  layout : Value := .null
  /-- The columns of the data set. -/
  catalog : Catalog := {}
  /-- The shared filters. -/
  shared : SharedFilters := {}
  /-- How selected points are merged into the shared filters. -/
  policy : MergePolicy := .replace
  /-- The limits of charts that are added. -/
  limits : QueryLimits := {}
  /-- The display cap of charts that are added. -/
  displayCap : Nat := RenderModel.defaultDisplayCap
  /-- The charts in order. -/
  charts : Ledger Uuid ChartView := ∅
  deriving Inhabited

namespace Session

/-- Puts a chart in its place, or behind the others if it has none. -/
def put (s : Session) (id : Uuid) (view : ChartView) : Session :=
  { s with charts := s.charts.insert id view }

/-- Adds a chart under a new identifier, with a kept specification if there is one. -/
def addChart (s : Session) (id : Uuid) (persisted : Option Spec)
    (participation : Participation := {}) : Turn Session Uuid :=
  let view : ChartView :=
    { id
      catalog := s.catalog
      filters := s.shared.filters
      limits := s.limits
      displayCap := s.displayCap
      publishes := true }
  let mounted := view.mount persisted
  match mounted.answer with
  | .error refusal => .refused s refusal
  | .ok () =>
    let registered := { s with shared := s.shared.register id participation }
    { state := registered.put id mounted.state, answer := .ok id, notices := mounted.notices }

/-- Adds one chart for each kept specification, under the identifiers from a given number on. -/
def addCharts (identify : Nat → Uuid) : Nat → List Spec → Session → Turn Session Unit
  | _, [], s => .done s ()
  | number, spec :: rest, s =>
    (s.addChart (identify number) (some spec)).andThen fun s _ =>
      addCharts identify (number + 1) rest s

/-- Opens a document. The charts get the identifiers of their numbers. -/
def ofDocument (identify : Nat → Uuid) (d : Document) (catalog : Catalog) : Turn Session Unit :=
  addCharts identify 0 d.charts
    { id := d.id
      name := d.name
      datasetId := d.datasetId
      layout := d.layout
      catalog
      shared := { filters := d.filters } }

/-- The document of the dashboard as it is now. -/
def toDocument (s : Session) : Document where
  id := s.id
  name := s.name
  datasetId := s.datasetId
  filters := s.shared.filters
  charts := s.charts.entries.map fun entry => entry.2.spec
  layout := s.layout

/-- Makes a call on one chart, if it is there. -/
def onChart? {α : Type} (s : Session) (id : Uuid) (call : ChartView → Turn ChartView α) :
    Option (Turn Session α) :=
  (s.charts.get? id).map fun view => (call view).within (s.put id)

/-- Removes a chart and answers with its last specification. -/
def removeChart (s : Session) (id : Uuid) : Option Spec × Session :=
  match s.charts.get? id with
  | none => (none, s)
  | some view =>
    (some view.tearDown.spec,
      { s with charts := s.charts.erase id, shared := s.shared.unregister id })

/-- Gives filters to those of some charts that follow the shared ones. The first chart that
refuses ends it. -/
def deliver (filters : FilterSet) : List Uuid → Session → Turn Session Unit
  | [], s => .done s ()
  | id :: rest, s =>
    if s.shared.receives id then
      match s.onChart? id fun view => view.setFilters filters with
      | some turn => turn.andThen fun s _ => deliver filters rest s
      | none => deliver filters rest s
    else deliver filters rest s

/-- Gives the shared filters to the charts that follow them. -/
def propagate (s : Session) : Turn Session Unit :=
  deliver s.shared.filters s.charts.keys s

/-- Replaces the shared filters. -/
def setFilters (s : Session) (filters : FilterSet) : Turn Session Unit :=
  { s with shared := s.shared.setFilters filters }.propagate

/-- Removes the shared filters. -/
def clearFilters (s : Session) : Turn Session Unit :=
  { s with shared := s.shared.clear }.propagate

/-- Merges a change into the shared filters. -/
def applyDelta (s : Session) (delta : FilterDelta) : Turn Session Unit :=
  { s with shared := s.shared.merge s.policy delta }.propagate

/-- Selects a point of a chart. Nothing happens if there is no such chart, if it may not change the
filters or if it does not let points be selected. -/
def selectPoint (s : Session) (id : Uuid) (value : Value) : Turn Session (Option FilterDelta) :=
  if s.shared.emits id then
    match s.onChart? id fun view => view.selectPoint value with
    | none => .done s none
    | some turn =>
      turn.andThen fun s selected =>
        match selected with
        | none => .done s none
        | some delta => (s.applyDelta delta).andThen fun s _ => .done s (some delta)
  else .done s none

/-- Runs some charts in order and counts those that took an answer. The first chart that refuses
ends it. -/
def runCharts {ε : Type} (execute : Executor ε) :
    List Uuid → Nat → Session → ε → Turn Session Nat × ε
  | [], applied, s, env => (.done s applied, env)
  | id :: rest, applied, s, env =>
    match s.charts.get? id with
    | none => runCharts execute rest applied s env
    | some view =>
      let (turn, env) := view.run execute env
      let left := s.put id turn.state
      match turn.answer with
      | .error refusal =>
        ({ state := left, answer := .error refusal, notices := turn.notices }, env)
      | .ok tookAnswer =>
        let (others, env) :=
          runCharts execute rest (if tookAnswer then applied + 1 else applied) left env
        ({ others with notices := turn.notices ++ others.notices }, env)

/-- Runs every chart that waits for a query and counts those that took an answer. -/
def refreshAll {ε : Type} (s : Session) (execute : Executor ε) (env : ε) : Turn Session Nat × ε :=
  runCharts execute s.charts.keys 0 s env

end Session

end Chartboard
