import Chartboard.Chart.Selection
import Chartboard.View.Basic

/-!
# The life of a chart view

The calls on a chart view. A mounted chart hands out its next query, and the answer is taken only
if nothing has changed since, so an answer that comes late never takes the place of a newer one.
-/

namespace Chartboard

open Json (Value)

namespace ChartView

/-- Takes over a kept specification, unless one has been taken over or edited before. Nobody is
told. -/
def hydrate (v : ChartView) (persisted : Spec) : Turn ChartView Bool :=
  if v.phase = .tornDown then .refused v (.tornDown v.id)
  else if v.hydrated then .done v false
  else .done { v with hydrated := true, spec := persisted }.markStale true

/-- Mounts the chart, with a kept specification if there is one. A mounted chart stays as it is. -/
def mount (v : ChartView) (persisted : Option Spec) : Turn ChartView Unit :=
  match v.phase with
  | .tornDown => .refused v (.tornDown v.id)
  | .uninitialized =>
    let started := { v with phase := .hydrating }
    let hydration : Turn ChartView Unit :=
      match persisted with
      | some spec => (started.hydrate spec).andThen fun v _ => .done v ()
      | none => .done started ()
    hydration.andThen fun v _ => .done { v with phase := .ready } ()
  | _ => .done v ()

/-- Makes a specification the one of the chart and tells so; nothing happens if it is the one. -/
def replaceSpec (v : ChartView) (spec : Spec) : Turn ChartView Bool :=
  v.whenLive <|
    if v.spec = spec then .done v false
    else
      let changed := { v with spec, hydrated := true }.markStale
      { state := changed, answer := .ok true, notices := changed.broadcast }

/-- Makes one edit. -/
def edit (v : ChartView) (e : SpecEdit) : Turn ChartView Bool :=
  v.replaceSpec (v.spec.apply e)

/-- Replaces the filters that queries carry. -/
def setFilters (v : ChartView) (filters : FilterSet) : Turn ChartView Bool :=
  v.whenLive <|
    if v.filters.same filters then .done v false
    else .done { v with filters }.markStale true

/-- Replaces the columns of the data set. -/
def setCatalog (v : ChartView) (catalog : Catalog) : Turn ChartView Bool :=
  v.whenLive <|
    if v.catalog = catalog then .done v false
    else .done { v with catalog }.markStale true

/-- Asks for a new query though nothing has changed. -/
def refresh (v : ChartView) : Turn ChartView Unit :=
  v.whenLive (.done v.markStale ())

/-- Shows an error in place of the chart. -/
def fail {α : Type} (v : ChartView) (fault : ChartFault) (value : α) : Turn ChartView α where
  state := { v with phase := .failed, fault := some fault, render := none }
  answer := .ok value
  notices := v.publish (.chartFailed v.id fault.message fault.retryable)

/-- Hands out the next query, if the chart waits for one. A specification that is still being
filled in leaves the chart waiting with a hint; one that fails another check is an error. -/
def poll (v : ChartView) : Turn ChartView (Option PendingQuery) :=
  v.whenLive <|
    if v.awaitsQuery then
      match v.nextRequest with
      | .ok request =>
        let generation := v.generation + 1
        .done { v with phase := .compiling generation, generation, render := none, fault := none }
          (some ⟨v.id, generation, request⟩)
      | .error e =>
        if e.isIncomplete then
          .done { v with phase := .stale, fault := some (.ofValidation e) } none
        else v.fail (.ofValidation e) none
    else .done v none

/-- Takes the answer to a query, unless it is not the one that the chart waits for. -/
def complete (v : ChartView) (generation : Nat) (result : Except QueryError Response) :
    Turn ChartView Bool :=
  v.whenLive <|
    if generation = v.generation ∧ v.phase = .compiling generation then
      match result with
      | .ok response =>
        let model := v.draw response
        { state := { v with phase := .rendered generation, render := some model }
          answer := .ok true
          notices := v.publish (.chartRendered v.id generation v.spec.kind model.isEmpty) }
      | .error e => v.fail (.ofQuery e) true
    else .done v false

/-- The change of the filters that a selected point asks for, if the chart lets points be
selected. -/
def selectPoint (v : ChartView) (value : Value) : Turn ChartView (Option FilterDelta) :=
  v.whenLive {
    state := v
    answer := .ok (v.spec.selection? value)
    notices :=
      match v.spec.selection? value with
      | some delta => v.publish (.crossFilterEmitted v.id delta.column delta.value)
      | none => [] }

/-- Registers a subscriber. -/
def subscribe (v : ChartView) (subscriber : String) : ChartView :=
  { v with subscribers := v.subscribers.add subscriber }

/-- Lets a subscriber go. -/
def unsubscribe (v : ChartView) (subscriber : String) : ChartView :=
  { v with subscribers := v.subscribers.drop subscriber }

/-- Removes the chart for good. -/
def tearDown (v : ChartView) : ChartView :=
  if v.phase = .tornDown then v
  else { v with phase := .tornDown, render := none, subscribers := v.subscribers.clear }

end ChartView

/-- Somebody who answers requests and may change in doing so. -/
abbrev Executor (ε : Type) := Request → ε → Except QueryError Response × ε

/-- The executor that asks a table. -/
def Table.executor (t : Table) : Executor Unit :=
  fun request env => (t.run request, env)

/-- Hands out the next query, has it answered and takes the answer. -/
def ChartView.run {ε : Type} (v : ChartView) (execute : Executor ε) (env : ε) :
    Turn ChartView Bool × ε :=
  let polled := v.poll
  match polled.answer with
  | .ok (some pending) =>
    let (result, env) := execute pending.request env
    (polled.andThen fun v _ => v.complete pending.generation result, env)
  | _ => (polled.andThen fun v _ => .done v false, env)

end Chartboard
