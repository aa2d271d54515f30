import Chartboard.Proofs.Dashboard.KeptOut
import Chartboard.Proofs.Dashboard.Refreshing

/-!
# Charts do not disturb each other

The charts of a dashboard share their filters and nothing else. What is done to one chart leaves the
others as they are, a change of the shared filters reaches a chart as new filters only, and a chart
that is run among others ends as it does when it is run alone.
-/

namespace Chartboard

/-- A chart that takes calls and is given filters either stays as it is, or it has them and is out
of date. -/
theorem ChartView.given_cases {v : ChartView} (hbegun : v.phase.hasBegun = true)
    (hlive : v.phase ≠ .tornDown) (filters : FilterSet) :
    v.given filters = v ∨ v.given filters = { v with filters, phase := .stale } := by
  by_cases hsame : v.filters.same filters
  · exact .inl (given_of_same hsame)
  · refine .inr ((given_of_not_same hsame).trans ?_)
    cases hphase : v.phase with
    | uninitialized => rw [hphase] at hbegun; cases hbegun
    | hydrating => rw [hphase] at hbegun; cases hbegun
    | tornDown => exact absurd hphase hlive
    | _ => simp only [markStale]

namespace Session

variable {s : Session} {chart other : Uuid}

/-! ## Calls on one chart -/

/-- Whatever is done to one chart, the others stay as they are. -/
theorem onChart?_spares {α : Type} {call : ChartView → Turn ChartView α} {turn : Turn Session α}
    (h : s.onChart? chart call = some turn) (hother : other ≠ chart) :
    turn.state.charts.get? other = s.charts.get? other := by
  obtain ⟨v, -, rfl⟩ := Option.map_eq_some_iff.1 h
  show (s.put chart (call v).state).charts.get? other = _
  rw [get?_put, if_neg hother]

/-- The removal of one chart leaves the others as they are. -/
theorem removeChart_spares (hother : other ≠ chart) :
    (s.removeChart chart).2.charts.get? other = s.charts.get? other := by
  unfold removeChart
  split
  · rfl
  · simp only [Ledger.get?_erase, if_neg hother]

/-! ## Changes of the shared filters -/

/-- A change of the shared filters leaves a chart as it is, or the chart has them and is out of
date. -/
theorem changeFilters_chart {v : ChartView} (hmounted : s.AllMounted) (call : FilterCall)
    (hchart : s.charts.get? chart = some v) (hlive : v.phase ≠ .tornDown) :
    let t := (s.changeFilters call).state
    t.charts.get? chart = some v ∨
      t.charts.get? chart = some { v with filters := t.shared.filters, phase := .stale } := by
  intro t
  cases hrequested : s.requested? call with
  | none =>
    refine .inl ?_
    rw [show t = s from (changeFilters_of_none hrequested).1]
    exact hchart
  | some filters =>
    have hfilters : t.shared.filters = filters :=
      (changeFilters_filters s call).trans (by rw [hrequested]; rfl)
    have hget := (changeFilters_delivered hrequested).charts chart
    change t.charts.get? chart =
      if _ then (s.charts.get? chart).map _ else s.charts.get? chart at hget
    rw [hget, hchart, hfilters]
    split
    · exact (ChartView.given_cases (hmounted chart v hchart) hlive filters).imp
        (congrArg some) (congrArg some)
    · exact .inl rfl

/-! ## Refreshes -/

/-- If the answers depend on the requests only, a chart ends a refresh as it ends a run of its own,
whatever has become of the executor in the meantime. -/
theorem refreshAll_chart {ε : Type} {v : ChartView} (hlive : s.AllLive) {execute : Executor ε}
    {answer : Request → Except QueryError Response}
    (hanswer : ∀ request env, (execute request env).1 = answer request) (env alone : ε)
    (hchart : s.charts.get? chart = some v) :
    (s.refreshAll execute env).1.state.charts.get? chart =
      some (v.run execute alone).1.state := by
  have hmem : chart ∈ s.charts.keys := Ledger.mem_keys_iff.2 ⟨_, hchart⟩
  obtain ⟨met, hran⟩ := (refreshAll_ran execute hlive env).1.ran chart hmem v hchart
  rw [hran, v.run_congr fun request => (hanswer request met).trans (hanswer request alone).symm]

/-- However a session begins and whatever is called, no chart disturbs another as long as none has
been removed behind the back of the session. A call on one chart, whatever it is, and the removal of
one chart leave the others as they are. A change of the shared filters leaves each chart as it is,
or the chart has them and is out of date, and nothing else of it changes. If the answers of an
executor depend on the requests only, a refresh leaves each chart as it is left when it is run
alone: neither the other charts nor their order make a difference. -/
theorem charts_undisturbed (start : SessionStart) (calls : List SessionCall)
    (hlive : ∀ chart v, (start.session.after calls).charts.get? chart = some v →
      v.phase ≠ .tornDown) :
    let s := start.session.after calls
    (∀ {α : Type} (chart : Uuid) (call : ChartView → Turn ChartView α) (turn : Turn Session α),
      s.onChart? chart call = some turn →
        ∀ other, other ≠ chart → turn.state.charts.get? other = s.charts.get? other) ∧
    (∀ chart other, other ≠ chart →
      (s.removeChart chart).2.charts.get? other = s.charts.get? other) ∧
    (∀ call chart v, s.charts.get? chart = some v →
      let t := (s.changeFilters call).state
      t.charts.get? chart = some v ∨
        t.charts.get? chart = some { v with filters := t.shared.filters, phase := .stale }) ∧
    ∀ {ε : Type} (execute : Executor ε) (answer : Request → Except QueryError Response),
      (∀ request env, (execute request env).1 = answer request) →
        ∀ env alone chart v, s.charts.get? chart = some v →
          (s.refreshAll execute env).1.state.charts.get? chart =
            some (v.run execute alone).1.state := by
  intro s
  have hmounted : s.AllMounted := allMounted_after start calls
  refine ⟨fun chart call turn h other hother => onChart?_spares h hother,
    fun chart other hother => removeChart_spares hother, fun call chart v hchart => ?_,
    fun execute answer hanswer env alone chart v hchart => ?_⟩
  · exact changeFilters_chart hmounted call hchart (hlive chart v hchart)
  · exact refreshAll_chart (hmounted.allLive hlive) hanswer env alone hchart

/-- Two pies of sales, of which the second does not follow the shared filters. -/
def twoPies : List SessionCall :=
  [.addChart (Uuid.ofNat 1) (some salesPie) {},
    .addChart (Uuid.ofNat 2) (some salesPie) { receives := false }]

/-- An executor that has no rows for anybody and counts the requests. -/
def counting : Executor Nat :=
  fun _ count => (.ok {}, count + 1)

/-- The second pie is refreshed as if it were alone, though the first one is asked before it. It
survives the removal of the first one, and it is left as it is when the dashboard is filtered. -/
theorem charts_undisturbed_twoPies :
    let s := salesStart.session.after twoPies
    (∀ chart v, s.charts.get? chart = some v → v.phase ≠ .tornDown) ∧
    ∃ v, s.charts.get? (Uuid.ofNat 2) = some v ∧
      (s.removeChart (Uuid.ofNat 1)).2.charts.get? (Uuid.ofNat 2) = some v ∧
      (s.refreshAll counting 0).1.state.charts.get? (Uuid.ofNat 2) =
        some (v.run counting 0).1.state ∧
      (s.refreshAll counting 0).2 = 2 := by
  intro s
  have hlive : ∀ chart v, s.charts.get? chart = some v → v.phase ≠ .tornDown := by
    intro chart v hv
    rcases List.mem_pair.1 (Ledger.get?_eq_some_iff.1 hv) with h | h
    · cases h
      nofun
    · cases h
      nofun
  obtain ⟨-, hremoved, -, hrefreshed⟩ := charts_undisturbed salesStart twoPies hlive
  exact ⟨hlive, _, rfl, hremoved (Uuid.ofNat 1) (Uuid.ofNat 2) (by decide),
    hrefreshed counting (fun _ => .ok {}) (fun _ _ => rfl) 0 0 (Uuid.ofNat 2) _ rfl, rfl⟩

end Session

end Chartboard
