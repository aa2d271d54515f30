import Chartboard.Dashboard.Session
import Chartboard.Proofs.Json.Agreement
import Chartboard.Proofs.Ledger.Lookup
import Chartboard.Proofs.View.History

/-!
# Histories of a session

A session begins empty or with a document, and then it is called in whatever order the host likes.
The host reaches every chart, so a call on a chart is a call on the session as well. A call that is
refused stays in the history with what it leaves.
-/

namespace Chartboard

open Json (Value)

/-! ## Calls -/

/-- A call that may change the shared filters. -/
inductive FilterCall where
  /-- Replaces the filters. -/
  | set (filters : FilterSet)
  /-- Removes the filters. -/
  | clear
  /-- Selects a point of a chart. -/
  | select (chart : Uuid) (value : Value)

/-- Something that is chosen for an open dashboard. -/
inductive SessionOption where
  /-- How selected points are merged into the shared filters. -/
  | policy (policy : MergePolicy)
  /-- The limits of charts that are added. -/
  | limits (limits : QueryLimits)
  /-- The display cap of charts that are added. -/
  | displayCap (cap : Nat)

/-- A call on a session. -/
inductive SessionCall : Type 1 where
  /-- Makes a choice. -/
  | configure (option : SessionOption)
  /-- Records the identifier under which the dashboard is stored. -/
  | setId (id : Uuid)
  /-- Adds a chart. -/
  | addChart (chart : Uuid) (persisted : Option Spec) (participation : Participation)
  /-- Removes a chart. -/
  | removeChart (chart : Uuid)
  /-- Changes the shared filters. -/
  | changeFilters (call : FilterCall)
  /-- Runs every chart that waits for a query, whoever answers. -/
  | refreshAll {ε : Type} (execute : Executor ε) (env : ε)
  /-- Makes a call on one chart. -/
  | onChart (chart : Uuid) (call : ViewCall)

/-- A chart hands out a query or is brought an answer. -/
def SessionCall.isQuery : SessionCall → Bool
  | .onChart _ .poll => true
  | .onChart _ (.complete _ _) => true
  | _ => false

namespace Session

/-- The turn of a call that may change the shared filters. It answers with the change that a
selected point has asked for. -/
def changeFilters (s : Session) : FilterCall → Turn Session (Option FilterDelta)
  | .set filters => (s.setFilters filters).andThen fun s _ => .done s none
  | .clear => s.clearFilters.andThen fun s _ => .done s none
  | .select chart value => s.selectPoint chart value

/-- The session with one more choice made. -/
def configure (s : Session) : SessionOption → Session
  | .policy policy => { s with policy }
  | .limits limits => { s with limits }
  | .displayCap displayCap => { s with displayCap }

/-- What a call leaves. -/
def left (s : Session) : SessionCall → Session
  | .configure option => s.configure option
  | .setId id => { s with id := some id }
  | .addChart chart persisted participation => (s.addChart chart persisted participation).state
  | .removeChart chart => (s.removeChart chart).2
  | .changeFilters call => (s.changeFilters call).state
  | .refreshAll execute env => (s.refreshAll execute env).1.state
  | .onChart chart call =>
    match s.onChart? chart fun view => view.perform call with
    | some turn => turn.state
    | none => s

/-- What some calls leave, made one after the other. -/
def after (s : Session) (calls : List SessionCall) : Session :=
  calls.foldl left s

end Session

/-- How a session begins. -/
inductive SessionStart where
  /-- Without charts and filters. -/
  | empty (name datasetId : String) (catalog : Catalog)
  /-- With those of a document. -/
  | document (identify : Nat → Uuid) (d : Document) (catalog : Catalog)

/-- The session that begins so. -/
def SessionStart.session : SessionStart → Session
  | empty name datasetId catalog => { name, datasetId, catalog }
  | document identify d catalog => (Session.ofDocument identify d catalog).state

/-! ## Values that can be written -/

namespace FilterCall

/-- The values that the call brings are canonical. -/
def isCanonical : FilterCall → Bool
  | set filters => filters.isCanonical
  | clear => true
  | select _ value => value.isCanonical

end FilterCall

/-- The values that the call brings into the shared filters are canonical. -/
def SessionCall.isCanonical : SessionCall → Bool
  | changeFilters call => call.isCanonical
  | _ => true

/-- The filters that the session begins with are canonical. -/
def SessionStart.isCanonical : SessionStart → Bool
  | empty _ _ _ => true
  | document _ d _ => d.filters.isCanonical

/-! ## Charts in their places -/

namespace Session

variable {s : Session} {chart : Uuid} {v : ChartView}

/-- Putting a chart back as it is changes nothing. -/
theorem put_self (h : s.charts.get? chart = some v) : s.put chart v = s := by
  simp only [put, Ledger.insert_self h]

/-- Putting a chart back changes this chart alone. -/
theorem get?_put (s : Session) (chart other : Uuid) (v : ChartView) :
    (s.put chart v).charts.get? other =
      if other = chart then some v else s.charts.get? other :=
  Ledger.get?_insert s.charts chart other v

/-- Putting a chart back leaves the order of the charts as it is. -/
theorem keys_put (h : s.charts.get? chart = some v) (w : ChartView) :
    (s.put chart w).charts.keys = s.charts.keys :=
  Ledger.keys_insert_of_mem w (Ledger.mem_keys_iff.2 ⟨_, h⟩)

/-- A run of a session goes on where its first calls have led. -/
theorem after_cons (s : Session) (call : SessionCall) (calls : List SessionCall) :
    s.after (call :: calls) = (s.left call).after calls :=
  rfl

/-- Later calls go on from what the earlier ones leave. -/
theorem after_append (s : Session) (calls later : List SessionCall) :
    s.after (calls ++ later) = (s.after calls).after later :=
  List.foldl_append

/-- What holds at first and is kept by every call holds after any calls. -/
theorem after_induction {motive : Session → Prop} (allowed : SessionCall → Prop)
    (step : ∀ s call, allowed call → motive s → motive (s.left call)) {s : Session}
    (start : motive s) {calls : List SessionCall} (h : ∀ call ∈ calls, allowed call) :
    motive (s.after calls) := by
  induction calls generalizing s with
  | nil => exact start
  | cons call rest ih =>
    rw [after_cons]
    exact ih (step s call (h call List.mem_cons_self) start)
      fun other hother => h other (List.mem_cons_of_mem call hother)

/-! ## Added charts -/

/-- The chart that is added under an identifier: mounted, with the kept specification if there is
one. -/
def newChart (s : Session) (chart : Uuid) (persisted : Option Spec) : ChartView where
  id := chart
  phase := .ready
  spec := persisted.getD {}
  hydrated := persisted.isSome
  filters := s.shared.filters
  catalog := s.catalog
  limits := s.limits
  displayCap := s.displayCap
  publishes := true

/-- The session with a new chart. -/
def withChart (s : Session) (chart : Uuid) (persisted : Option Spec)
    (participation : Participation) : Session :=
  { s with
    shared := s.shared.register chart participation
    charts := s.charts.insert chart (s.newChart chart persisted) }

/-- No chart refuses to be added, and nobody is told of it. -/
theorem addChart_eq (s : Session) (chart : Uuid) (persisted : Option Spec)
    (participation : Participation) :
    s.addChart chart persisted participation =
      .done (s.withChart chart persisted participation) chart := by
  cases persisted with
  | none => rfl
  | some spec => rfl

/-- No document refuses to be opened. What holds before its charts are added and is kept by every
addition holds of the session. -/
theorem addCharts_induction {motive : Session → Prop} (identify : Nat → Uuid)
    (step : ∀ s chart spec, motive s → motive (s.withChart chart (some spec) {}))
    {s : Session} (start : motive s) (number : Nat) (specs : List Spec) :
    (addCharts identify number specs s).answer = .ok () ∧
      motive (addCharts identify number specs s).state := by
  induction specs generalizing s number with
  | nil => exact ⟨rfl, start⟩
  | cons spec rest ih =>
    have hadded : (s.addChart (identify number) (some spec)).answer = .ok (identify number) := by
      rw [addChart_eq]
      rfl
    obtain ⟨hstate, hanswer⟩ := Turn.andThen_of_ok
      (fun s _ => addCharts identify (number + 1) rest s) hadded
    rw [addCharts, hstate, hanswer, addChart_eq]
    exact ih (step s (identify number) spec start) (number + 1)

/-! ## Calls on charts -/

/-- Of two states that a chart is put back in, the later one stays. -/
theorem put_put (s : Session) (chart : Uuid) (v w : ChartView) :
    (s.put chart v).put chart w = s.put chart w := by
  simp only [put, Ledger.insert_insert]

/-- A call on a chart leaves the chart as its turn does and everything else as it was. -/
theorem left_onChart (h : s.charts.get? chart = some v) (call : ViewCall) :
    s.left (.onChart chart call) = s.put chart (v.perform call).state := by
  rw [left, onChart?, h]
  rfl

/-- A call on a chart that is not there leaves the session as it is. -/
theorem left_onChart_of_none (h : s.charts.get? chart = none) (call : ViewCall) :
    s.left (.onChart chart call) = s := by
  rw [left, onChart?, h]
  rfl

/-- Running a chart is a history of queries and answers. -/
theorem run_eq_after {ε : Type} (execute : Executor ε) (env : ε)
    (h : s.charts.get? chart = some v) :
    ∃ calls : List SessionCall, (∀ call ∈ calls, call.isQuery = true) ∧
      s.put chart (v.run execute env).1.state = s.after calls := by
  have hpoll : s.left (.onChart chart .poll) = s.put chart v.poll.state := left_onChart h .poll
  rcases v.run_cases execute env with hstate | ⟨generation, result, hstate⟩
  · refine ⟨[.onChart chart .poll], by simp [SessionCall.isQuery], ?_⟩
    rw [hstate, after_cons, hpoll]
    rfl
  · refine ⟨[.onChart chart .poll, .onChart chart (.complete generation result)],
      by simp [SessionCall.isQuery], ?_⟩
    have hpolled : (s.put chart v.poll.state).charts.get? chart = some v.poll.state := by
      rw [get?_put, if_pos rfl]
    rw [hstate, after_cons, hpoll, after_cons, left_onChart hpolled, put_put]
    rfl

/-- Running charts is a history of queries and answers. -/
theorem runCharts_eq_after {ε : Type} (execute : Executor ε) (ids : List Uuid) (applied : Nat)
    (s : Session) (env : ε) :
    ∃ calls : List SessionCall, (∀ call ∈ calls, call.isQuery = true) ∧
      (runCharts execute ids applied s env).1.state = s.after calls := by
  induction ids generalizing applied s env with
  | nil =>
    rw [runCharts]
    exact ⟨[], fun _ hcall => absurd hcall List.not_mem_nil, rfl⟩
  | cons chart rest ih =>
    cases hchart : s.charts.get? chart with
    | none =>
      simp only [runCharts, hchart]
      exact ih applied s env
    | some v =>
      obtain ⟨calls, hcalls, hrun⟩ := run_eq_after execute env hchart
      cases hanswer : (v.run execute env).1.answer with
      | error refusal =>
        simp only [runCharts, hchart, hanswer]
        exact ⟨calls, hcalls, hrun⟩
      | ok tookAnswer =>
        simp only [runCharts, hchart, hanswer]
        rw [hrun]
        obtain ⟨later, hlater, hrest⟩ := ih (if tookAnswer then applied + 1 else applied)
          (s.after calls) (v.run execute env).2
        refine ⟨calls ++ later, fun call hcall => ?_, ?_⟩
        · exact (List.mem_append.1 hcall).elim (hcalls call) (hlater call)
        · rw [after_append]
          exact hrest

/-- Refreshing a dashboard is a history of queries and answers of its charts. -/
theorem refreshAll_eq_after {ε : Type} (execute : Executor ε) (env : ε) (s : Session) :
    ∃ calls : List SessionCall, (∀ call ∈ calls, call.isQuery = true) ∧
      s.left (.refreshAll execute env) = s.after calls :=
  runCharts_eq_after execute s.charts.keys 0 s env

end Session

end Chartboard
