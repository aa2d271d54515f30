import Chartboard.Proofs.Dashboard.Drafts
import Chartboard.Proofs.Dashboard.Following
import Chartboard.Proofs.Query.Compilation
import Chartboard.Proofs.View.Broadcasts
import Chartboard.Proofs.View.Freshness

/-!
# Charts that do not follow the shared filters

A chart that is added so that it does not follow the shared filters is left out of every change of
them. It is not left out when it is added: like every other chart it begins with the filters that
are shared at that moment, and it keeps them, whatever the dashboard is filtered by later.
-/

namespace Chartboard

/-! ## Filters of requests -/

namespace ChartView

/-- A query that is handed out is compiled with the limits and the filters of the chart. -/
theorem request_of_poll {v : ChartView} {pending : PendingQuery}
    (h : v.poll.answer = .ok (some pending)) :
    v.spec.compile v.limits v.filters = .ok pending.request := by
  refine whenLive_induction (motive := fun turn => turn.answer = .ok (some pending) →
    v.spec.compile v.limits v.filters = .ok pending.request) (fun refusal hrefused => ?_)
    (fun _ hlive => ?_) h
  · cases hrefused
  · split at hlive
    · split at hlive
      · rename_i hrequest
        cases hlive
        exact (nextRequest_eq_ok hrequest).2
      · split at hlive
        · cases hlive
        · cases hlive
    · cases hlive

/-- A query that is handed out carries the filters of the chart. -/
theorem filters_of_poll {v : ChartView} {pending : PendingQuery}
    (h : v.poll.answer = .ok (some pending)) : pending.request.filters = v.filters.toFilters :=
  Spec.filters_of_compile (request_of_poll h)

/-- No call but the one for it replaces the filters of a chart. -/
theorem filters_perform (v : ChartView) {call : ViewCall}
    (h : ∀ filters, call ≠ .setFilters filters) : (v.perform call).state.filters = v.filters := by
  cases call with
  | setFilters filters => exact absurd rfl (h filters)
  | tearDown =>
    show v.tearDown.filters = v.filters
    unfold tearDown
    split
    · rfl
    · rfl
  | _ => exact (v.perform_inStep rfl).filters

end ChartView

/-! ## Charts that are kept out -/

namespace Session

/-- The chart does not follow the shared filters and has filters of its own. -/
structure KeptOut (s : Session) (chart : Uuid) (filters : FilterSet) : Prop where
  /-- It is registered so. -/
  receives : s.shared.receives chart = false
  /-- It is there and has these filters. -/
  has : ∃ v, s.charts.get? chart = some v ∧ v.filters = filters

/-- The call neither removes the chart nor adds it anew, and it does not give it filters. -/
structure SparesChart (chart : Uuid) (call : SessionCall) : Prop where
  /-- It does not add the chart. -/
  added : call.added? ≠ some chart
  /-- It does not remove the chart. -/
  removed : call ≠ .removeChart chart
  /-- It does not give the chart filters. -/
  given : ∀ filters, call ≠ .onChart chart (.setFilters filters)

variable {s t : Session} {chart : Uuid} {filters : FilterSet}

/-- Another chart that is added gives this one no filters. -/
theorem keptOut_withChart (h : s.KeptOut chart filters) {other : Uuid} (hother : chart ≠ other)
    (persisted : Option Spec) (participation : Participation) :
    (s.withChart other persisted participation).KeptOut chart filters where
  receives := by
    have hpart := s.shared.participation_register other chart participation
    rw [if_neg hother] at hpart
    rw [← h.receives]
    exact congrArg Participation.receives hpart
  has := by
    simp only [withChart, Ledger.get?_insert, if_neg hother]
    exact h.has

/-- Another chart that is removed gives this one no filters. -/
theorem keptOut_removeChart (h : s.KeptOut chart filters) {other : Uuid} (hother : chart ≠ other) :
    (s.removeChart other).2.KeptOut chart filters := by
  unfold removeChart
  split
  · exact h
  · refine ⟨?_, ?_⟩
    · rw [← h.receives]
      exact congrArg Participation.receives (s.shared.participation_unregister hother)
    · simp only [Ledger.get?_erase, if_neg hother]
      exact h.has

/-- A change of the shared filters passes the chart by. -/
theorem keptOut_changeFilters (h : s.KeptOut chart filters) (call : FilterCall) :
    (s.changeFilters call).state.KeptOut chart filters := by
  cases hrequested : s.requested? call with
  | none =>
    rw [(changeFilters_of_none hrequested).1]
    exact h
  | some requested =>
    have hdelivered := changeFilters_delivered hrequested
    have hserved : chart ∉ s.served s.charts.keys := by
      intro hmem
      have hreceives := (mem_of_mem_served hmem).2
      rw [h.receives] at hreceives
      cases hreceives
    refine ⟨?_, ?_⟩
    · rw [hdelivered.frame]
      exact h.receives
    · rw [hdelivered.charts, if_neg hserved]
      exact h.has

/-- A call on a chart gives this one no filters unless it says so. -/
theorem keptOut_onChart (h : s.KeptOut chart filters) (other : Uuid) {call : ViewCall}
    (hcall : ∀ given, SessionCall.onChart other call ≠ .onChart chart (.setFilters given)) :
    (s.left (.onChart other call)).KeptOut chart filters := by
  cases hother : s.charts.get? other with
  | none =>
    rw [left_onChart_of_none hother]
    exact h
  | some w =>
    rw [left_onChart hother]
    refine ⟨h.receives, ?_⟩
    rw [get?_put]
    split
    · next hsame =>
      subst hsame
      obtain ⟨v, hv, hfilters⟩ := h.has
      cases hother.symm.trans hv
      refine ⟨_, rfl, ?_⟩
      rw [w.filters_perform fun given heq => hcall given (by rw [heq]), hfilters]
    · exact h.has

/-- Queries and answers leave the chart kept out. -/
theorem keptOut_refreshAll {ε : Type} (h : s.KeptOut chart filters) (execute : Executor ε)
    (env : ε) : (s.left (.refreshAll execute env)).KeptOut chart filters := by
  obtain ⟨calls, hcalls, hleft⟩ := refreshAll_eq_after execute env s
  rw [hleft]
  refine after_induction (motive := fun s => s.KeptOut chart filters)
    (fun call => call.isQuery = true) (fun s call hquery hs => ?_) h hcalls
  unfold SessionCall.isQuery at hquery
  split at hquery
  · exact keptOut_onChart hs _ nofun
  · exact keptOut_onChart hs _ nofun
  · cases hquery

/-- Every call that spares the chart leaves it kept out. -/
theorem keptOut_left (h : s.KeptOut chart filters) {call : SessionCall}
    (hspares : SparesChart chart call) : (s.left call).KeptOut chart filters := by
  cases call with
  | configure option => cases option <;> exact ⟨h.receives, h.has⟩
  | setId id => exact ⟨h.receives, h.has⟩
  | addChart other persisted participation =>
    rw [left, addChart_eq]
    exact keptOut_withChart h (fun heq => hspares.added (by rw [heq]; rfl)) persisted participation
  | removeChart other => exact keptOut_removeChart h fun heq => hspares.removed (by rw [heq])
  | changeFilters call => exact keptOut_changeFilters h call
  | refreshAll execute env => exact keptOut_refreshAll h execute env
  | onChart other call => exact keptOut_onChart h other hspares.given

/-- A chart that is added without following the shared filters begins with them all the same. -/
theorem keptOut_addChart (s : Session) (chart : Uuid) (persisted : Option Spec)
    {participation : Participation} (hout : participation.receives = false) :
    (s.left (.addChart chart persisted participation)).KeptOut chart s.shared.filters := by
  rw [left, addChart_eq]
  refine ⟨?_, s.newChart chart persisted, ?_, rfl⟩
  · have hpart := s.shared.participation_register chart chart participation
    rw [if_pos rfl] at hpart
    rw [← hout]
    exact congrArg Participation.receives hpart
  · simp only [Turn.done, withChart, Ledger.get?_insert, if_true]

/-- However a session begins and whatever is called before: a chart that is added without following
the shared filters has the filters that were shared at that moment, and its queries carry them, as
long as it is neither removed nor added anew and nobody gives it others. So the dashboard does not
filter it exactly if it did not when the chart was added; no change of the shared filters reaches
it, their removal included. -/
theorem keptOut_filters (start : SessionStart) (front later : List SessionCall) (chart : Uuid)
    (persisted : Option Spec) {participation : Participation}
    (hout : participation.receives = false) (hlater : ∀ call ∈ later, SparesChart chart call) :
    let added := start.session.after front
    let s := start.session.after (front ++ .addChart chart persisted participation :: later)
    ∃ v, s.charts.get? chart = some v ∧ v.filters = added.shared.filters ∧
      ∀ pending, v.poll.answer = .ok (some pending) →
        pending.request.filters = added.shared.filters.toFilters := by
  intro added s
  have hkept : s.KeptOut chart added.shared.filters := by
    show (start.session.after (front ++ _ :: later)).KeptOut chart _
    rw [after_append, after_cons]
    exact after_induction (motive := fun s => s.KeptOut chart added.shared.filters)
      (SparesChart chart) (fun s call hspares hs => keptOut_left hs hspares)
      (keptOut_addChart added chart persisted hout) hlater
  obtain ⟨v, hv, hfilters⟩ := hkept.has
  refine ⟨v, hv, hfilters, fun pending hpolled => ?_⟩
  rw [ChartView.filters_of_poll hpolled, hfilters]

/-- The sales of one region. -/
def eastFilters : FilterSet :=
  SortedMap.ofList [("region", .string "East")]

/-- A slice for the sales of each region. -/
def salesPie : Spec where
  kind := .pie
  groupBy := some "region"
  valueColumn := some "sales"

/-- A dashboard of sales. -/
def salesStart : SessionStart :=
  .empty "Sales" "sales.csv" ⟨[⟨"region", .string⟩, ⟨"sales", .float64⟩]⟩

/-- The dashboard is filtered when a pie is added that does not follow its filters. They are removed
later, but the pie is still filtered. -/
theorem keptOut_filters_salesPie :
    let kept : Participation := { receives := false }
    let s := salesStart.session.after ([.changeFilters (.set eastFilters)] ++
      .addChart (Uuid.ofNat 1) (some salesPie) kept :: [.changeFilters .clear])
    kept.receives = false ∧
    (∀ call ∈ [SessionCall.changeFilters .clear], SparesChart (Uuid.ofNat 1) call) ∧
    s.shared.filters = ∅ ∧
    ∃ v, s.charts.get? (Uuid.ofNat 1) = some v ∧ v.filters = eastFilters := by
  have hspares : ∀ call ∈ [SessionCall.changeFilters .clear],
      SparesChart (Uuid.ofNat 1) call := by
    intro call hcall
    rw [List.mem_singleton.1 hcall]
    exact ⟨nofun, nofun, nofun⟩
  have hout : ({ receives := false } : Participation).receives = false := rfl
  obtain ⟨v, hv, hfilters, -⟩ := keptOut_filters salesStart [.changeFilters (.set eastFilters)]
    [.changeFilters .clear] (Uuid.ofNat 1) (some salesPie) hout hspares
  exact ⟨rfl, hspares, rfl, v, hv, hfilters⟩

/-- A pie that is added without following the filters of a filtered dashboard is filtered by them
from its first query on. -/
theorem salesPie_filtered :
    let s := salesStart.session.after [.changeFilters (.set eastFilters),
      .addChart (Uuid.ofNat 1) (some salesPie) { emits := false, receives := false }]
    ∃ v pending, s.charts.get? (Uuid.ofNat 1) = some v ∧
      s.shared.receives (Uuid.ofNat 1) = false ∧ v.filters.toFilters ≠ [] ∧
      v.poll.answer = .ok (some pending) ∧
      pending.request.filters = [⟨"region", .string "East"⟩] :=
  ⟨_, _, rfl, rfl, List.cons_ne_nil _ _, rfl, rfl⟩

end Session

end Chartboard
