import Chartboard.Proofs.Dashboard.Delivery
import Chartboard.Proofs.View.Runs

/-!
# Refreshed dashboards

Every chart of a session has been mounted, so a chart refuses to be run only if it has been removed
behind the back of the session. Where none has, a refresh runs every chart once, each on its own and
in order, and the number that it answers with is the number of requests that were due.
-/

namespace Chartboard

/-! ## Charts of a session -/

/-- A chart that has been mounted stays so when it is given filters. -/
theorem ChartView.hasBegun_given {v : ChartView} (h : v.phase.hasBegun = true)
    (filters : FilterSet) : (v.given filters).phase.hasBegun = true := by
  by_cases hsame : v.filters.same filters
  · rw [given_of_same hsame]
    exact h
  · rw [given_of_not_same hsame]
    have hmove := ({ v with filters } : ChartView).markStale_move
    exact Display.hasBegun_move h hmove

namespace Session

/-- Every chart has been mounted. -/
def AllMounted (s : Session) : Prop :=
  ∀ chart v, s.charts.get? chart = some v → v.phase.hasBegun = true

/-- No chart refuses calls. -/
def AllLive (s : Session) : Prop :=
  ∀ chart v, s.charts.get? chart = some v → v.refusal? = none

variable {s : Session}

/-- Without charts all are mounted. -/
theorem allMounted_of_noCharts (h : s.charts = ∅) : s.AllMounted := by
  intro chart v hv
  rw [h] at hv
  cases hv

/-- A chart that is added is mounted. -/
theorem allMounted_withChart (h : s.AllMounted) (chart : Uuid) (persisted : Option Spec)
    (participation : Participation) :
    (s.withChart chart persisted participation).AllMounted := by
  intro id v hv
  simp only [withChart, Ledger.get?_insert] at hv
  split at hv
  · cases hv
    rfl
  · exact h id v hv

/-- The charts that are left stay mounted. -/
theorem allMounted_removeChart (h : s.AllMounted) (chart : Uuid) :
    (s.removeChart chart).2.AllMounted := by
  unfold removeChart
  split
  · exact h
  · intro id v hv
    simp only [Ledger.get?_erase] at hv
    split at hv
    · cases hv
    · exact h id v hv

/-- New filters leave all charts mounted. -/
theorem allMounted_changeFilters (h : s.AllMounted) (call : FilterCall) :
    (s.changeFilters call).state.AllMounted := by
  cases hrequested : s.requested? call with
  | none =>
    rw [(changeFilters_of_none hrequested).1]
    exact h
  | some filters =>
    intro id v hv
    rw [(changeFilters_delivered hrequested).charts] at hv
    split at hv
    · obtain ⟨w, hw, rfl⟩ := Option.map_eq_some_iff.1 hv
      exact ChartView.hasBegun_given (h id w hw) filters
    · exact h id v hv

/-- No call on a chart takes back that it was mounted. -/
theorem allMounted_onChart (h : s.AllMounted) (chart : Uuid) (call : ViewCall) :
    (s.left (.onChart chart call)).AllMounted := by
  cases hchart : s.charts.get? chart with
  | none =>
    rw [left_onChart_of_none hchart]
    exact h
  | some v =>
    intro id w hw
    rw [left_onChart hchart, get?_put] at hw
    split at hw
    · cases hw
      exact Display.hasBegun_move (h chart v hchart) (v.perform_move call)
    · exact h id w hw

/-- A refresh leaves all charts mounted. -/
theorem allMounted_refreshAll {ε : Type} (h : s.AllMounted) (execute : Executor ε) (env : ε) :
    (s.left (.refreshAll execute env)).AllMounted := by
  obtain ⟨calls, hcalls, hleft⟩ := refreshAll_eq_after execute env s
  rw [hleft]
  refine after_induction (motive := AllMounted) (fun call => call.isQuery = true)
    (fun s call hquery hs => ?_) h hcalls
  unfold SessionCall.isQuery at hquery
  split at hquery
  · exact allMounted_onChart hs _ _
  · exact allMounted_onChart hs _ _
  · cases hquery

/-- Every call leaves all charts mounted. -/
theorem allMounted_left (h : s.AllMounted) (call : SessionCall) : (s.left call).AllMounted := by
  cases call with
  | configure option => cases option <;> exact h
  | setId id => exact h
  | addChart chart persisted participation =>
    rw [left, addChart_eq]
    exact allMounted_withChart h chart persisted participation
  | removeChart chart => exact allMounted_removeChart h chart
  | changeFilters call => exact allMounted_changeFilters h call
  | refreshAll execute env => exact allMounted_refreshAll h execute env
  | onChart chart call => exact allMounted_onChart h chart call

/-- However a session begins and whatever is called, every chart has been mounted. -/
theorem allMounted_after (start : SessionStart) (calls : List SessionCall) :
    (start.session.after calls).AllMounted := by
  have hstart : start.session.AllMounted := by
    cases start with
    | empty name datasetId catalog => exact allMounted_of_noCharts rfl
    | document identify d catalog =>
      refine (addCharts_induction (motive := AllMounted) identify
        (fun s chart spec h => allMounted_withChart h chart (some spec) {}) ?_ 0 d.charts).2
      exact allMounted_of_noCharts rfl
  exact after_induction (motive := AllMounted) (fun _ => True)
    (fun s call _ h => allMounted_left h call) hstart fun _ _ => trivial

/-- Charts that have been mounted and not been removed take calls. -/
theorem AllMounted.allLive (h : s.AllMounted)
    (hlive : ∀ chart v, s.charts.get? chart = some v → v.phase ≠ .tornDown) : s.AllLive :=
  fun chart v hv => ChartView.refusal?_of_hasBegun (h chart v hv) (hlive chart v hv)

/-! ## What a refresh does -/

/-- The requests that some charts send when they are run, in order. -/
def dueOf (s : Session) (charts : List Uuid) : List Request :=
  charts.filterMap fun chart => (s.charts.get? chart).bind ChartView.due?

/-- The requests that a refresh sends, in order. -/
def due (s : Session) : List Request :=
  s.charts.entries.filterMap fun entry => entry.2.due?

/-- The requests that are due are those of all charts in order. -/
theorem due_eq_dueOf (s : Session) : s.due = s.dueOf s.charts.keys := by
  rw [due, dueOf, Ledger.keys, List.filterMap_map]
  refine List.filterMap_congr fun entry hentry => ?_
  rw [Function.comp_apply, Ledger.get?_eq_some_iff.2 hentry, Option.bind_some]

/-- What is due of some charts depends on these only. -/
theorem dueOf_put {charts : List Uuid} {chart : Uuid} (h : chart ∉ charts) (v : ChartView) :
    (s.put chart v).dueOf charts = s.dueOf charts := by
  refine List.filterMap_congr fun other hother => ?_
  rw [get?_put, if_neg]
  rintro rfl
  exact h hother

/-- As many requests are due as there are charts that wait for a query and pass the checks. -/
theorem length_due (s : Session) :
    s.due.length = s.charts.entries.countP fun entry =>
      entry.2.awaitsQuery && (entry.2.spec.validate entry.2.catalog).isOk := by
  rw [due, List.length_filterMap_eq_countP]
  simp only [ChartView.due?_isSome]

variable {ε : Type} {chart : Uuid} {v : ChartView}

/-- Some charts have been run, and nothing else has happened. -/
structure Ran (execute : Executor ε) (charts : List Uuid) (s t : Session) : Prop where
  /-- Only charts differ. -/
  frame : t = { s with charts := t.charts }
  /-- All charts are there, in their order. -/
  keys : t.charts.keys = s.charts.keys
  /-- The other charts are as they were. -/
  spared : ∀ id, id ∉ charts → t.charts.get? id = s.charts.get? id
  /-- Each of those charts is what it is after a run of its own. -/
  ran : ∀ id ∈ charts, ∀ v, s.charts.get? id = some v →
    ∃ env, t.charts.get? id = some (v.run execute env).1.state

/-- One chart has been run before the others. -/
theorem ran_cons {execute : Executor ε} {charts : List Uuid} {env : ε} {t : Session}
    (hchart : s.charts.get? chart = some v) (hnew : chart ∉ charts)
    (h : Ran execute charts (s.put chart (v.run execute env).1.state) t) :
    Ran execute (chart :: charts) s t where
  frame := h.frame
  keys := h.keys.trans (keys_put hchart _)
  spared id hid := by
    obtain ⟨hne, hrest⟩ := not_or.1 (mt List.mem_cons.2 hid)
    rw [h.spared id hrest, get?_put, if_neg hne]
  ran id hid w hw := by
    by_cases heq : id = chart
    · subst heq
      cases hchart.symm.trans hw
      refine ⟨env, ?_⟩
      rw [h.spared id hnew, get?_put, if_pos rfl]
    · refine h.ran id ((List.mem_cons.1 hid).resolve_left heq) w ?_
      rw [get?_put, if_neg heq]
      exact hw

/-- A chart that takes calls is run, and then the others are. -/
theorem runCharts_cons (execute : Executor ε) (rest : List Uuid) (applied : Nat) (env : ε)
    (hchart : s.charts.get? chart = some v) (hlive : v.refusal? = none) :
    let run := v.run execute env
    let others := runCharts execute rest (applied + v.due?.toList.length)
      (s.put chart run.1.state) run.2
    runCharts execute (chart :: rest) applied s env =
      ({ others.1 with notices := run.1.notices ++ others.1.notices }, others.2) := by
  have hcount : (if v.due?.isSome then applied + 1 else applied) =
      applied + v.due?.toList.length := by
    cases v.due? with
    | none => rfl
    | some request => rfl
  simp only [runCharts, hchart, ChartView.run_answer hlive, hcount]

/-- These charts are there and take calls. -/
def AnyLive (s : Session) (charts : List Uuid) : Prop :=
  ∀ id ∈ charts, ∃ v, s.charts.get? id = some v ∧ v.refusal? = none

/-- Where no chart refuses calls, all charts of the session take them. -/
theorem AllLive.keys (h : s.AllLive) : s.AnyLive s.charts.keys := by
  intro id hid
  obtain ⟨v, hv⟩ := Ledger.mem_keys_iff.1 hid
  exact ⟨v, hv, h id v hv⟩

/-- What one chart is left as makes no difference to whether the others take calls. -/
theorem AnyLive.put {charts : List Uuid} (h : s.AnyLive charts) (hnew : chart ∉ charts)
    (v : ChartView) : (s.put chart v).AnyLive charts := by
  intro id hid
  rw [get?_put, if_neg]
  · exact h id hid
  · rintro rfl
    exact hnew hid

/-- The request of the first chart comes before those of the others. -/
theorem dueOf_cons {charts : List Uuid} (hchart : s.charts.get? chart = some v) :
    s.dueOf (chart :: charts) = v.due?.toList ++ s.dueOf charts := by
  rw [dueOf, List.filterMap_cons, hchart, Option.bind_some, ← dueOf]
  cases v.due? with
  | none => rfl
  | some request => rfl

/-- Charts that take calls are run one by one, and counted if a request of theirs was due. -/
theorem runCharts_ran (execute : Executor ε) {charts : List Uuid} (hnodup : charts.Nodup)
    (hlive : s.AnyLive charts) (applied : Nat) (env : ε) :
    Ran execute charts s (runCharts execute charts applied s env).1.state ∧
      (runCharts execute charts applied s env).1.answer =
        .ok (applied + (s.dueOf charts).length) := by
  induction charts generalizing s applied env with
  | nil => exact ⟨⟨rfl, rfl, fun _ _ => rfl, fun _ hid => absurd hid List.not_mem_nil⟩, rfl⟩
  | cons chart rest ih =>
    obtain ⟨hnew, hrest⟩ := List.nodup_cons.1 hnodup
    obtain ⟨v, hchart, hv⟩ := hlive chart List.mem_cons_self
    have hlater : s.AnyLive rest := fun id hid => hlive id (List.mem_cons_of_mem chart hid)
    obtain ⟨hran, hanswer⟩ := ih hrest (hlater.put hnew (v.run execute env).1.state)
      (applied + v.due?.toList.length) (v.run execute env).2
    rw [runCharts_cons execute rest applied env hchart hv]
    refine ⟨ran_cons hchart hnew hran, hanswer.trans ?_⟩
    rw [dueOf_put hnew, dueOf_cons hchart, List.length_append, Nat.add_assoc]

/-- Noting the requests makes no difference, and those that are noted are the due ones. -/
theorem runCharts_noting (execute : Executor ε) {charts : List Uuid} (hnodup : charts.Nodup)
    (hlive : s.AnyLive charts) (applied : Nat) (env : ε) (sent : List Request) :
    runCharts (Executor.noting execute) charts applied s (env, sent) =
      ((runCharts execute charts applied s env).1, (runCharts execute charts applied s env).2,
        sent ++ s.dueOf charts) := by
  induction charts generalizing s applied env sent with
  | nil =>
    rw [dueOf, List.filterMap_nil, List.append_nil]
    rfl
  | cons chart rest ih =>
    obtain ⟨hnew, hrest⟩ := List.nodup_cons.1 hnodup
    obtain ⟨v, hchart, hv⟩ := hlive chart List.mem_cons_self
    have hlater : s.AnyLive rest := fun id hid => hlive id (List.mem_cons_of_mem chart hid)
    rw [runCharts_cons _ rest applied (env, sent) hchart hv, runCharts_cons _ rest applied env
      hchart hv, ChartView.run_noting hv execute env sent]
    simp only [ih hrest (hlater.put hnew _), dueOf_put hnew, dueOf_cons hchart, List.append_assoc]

/-- Running charts at rest does nothing. -/
theorem runCharts_atRest (execute : Executor ε) {charts : List Uuid}
    (h : ∀ id ∈ charts, ∃ v, s.charts.get? id = some v ∧ v.AtRest) (applied : Nat) (env : ε) :
    runCharts execute charts applied s env = (.done s applied, env) := by
  induction charts with
  | nil => rfl
  | cons chart rest ih =>
    obtain ⟨v, hchart, hv⟩ := h chart List.mem_cons_self
    have hput : s.put chart v = s := put_self hchart
    simp only [runCharts, hchart, hv.run, Turn.done, hput, Bool.false_eq_true, if_false,
      ih fun id hid => h id (List.mem_cons_of_mem chart hid), List.nil_append]

/-- A refresh runs every chart once. It answers with the number of requests that were due, and it
sends these and no others. -/
theorem refreshAll_ran (execute : Executor ε) (hlive : s.AllLive) (env : ε) :
    Ran execute s.charts.keys s (s.refreshAll execute env).1.state ∧
      (s.refreshAll execute env).1.answer = .ok s.due.length ∧
      ∀ sent, s.refreshAll (Executor.noting execute) (env, sent) =
        ((s.refreshAll execute env).1, (s.refreshAll execute env).2, sent ++ s.due) := by
  have hnodup : s.charts.keys.Nodup := s.charts.nodup_keys
  obtain ⟨hran, hanswer⟩ := runCharts_ran execute hnodup hlive.keys 0 env
  rw [Nat.zero_add, ← due_eq_dueOf] at hanswer
  refine ⟨hran, hanswer, fun sent => ?_⟩
  rw [due_eq_dueOf]
  exact runCharts_noting execute hnodup hlive.keys 0 env sent

end Session

end Chartboard
