import Chartboard.Proofs.Dashboard.Independence

/-!
# Refreshed dashboards come to rest

A refresh asks once for every chart that has something to ask, and it leaves none that would ask
again by itself: every chart then shows an answer, an error, or a hint of what is to be filled in.
So a second refresh does nothing at all, whoever is asked.
-/

namespace Chartboard

namespace Session

variable {s : Session} {ε : Type}

/-- No chart has been removed behind the back of the session, and none waits for an answer. -/
def Idle (s : Session) : Prop :=
  ∀ chart v, s.charts.get? chart = some v →
    v.phase ≠ .tornDown ∧ ∀ generation, v.phase ≠ .compiling generation

/-- Every chart shows an answer, an error, or a hint. -/
def AtRest (s : Session) : Prop :=
  ∀ chart v, s.charts.get? chart = some v → v.AtRest

/-- A refresh brings every chart to rest. -/
theorem atRest_refreshAll (hmounted : s.AllMounted) (hidle : s.Idle) (execute : Executor ε)
    (env : ε) : (s.refreshAll execute env).1.state.AtRest := by
  have hlive : s.AllLive := hmounted.allLive fun chart v hv => (hidle chart v hv).1
  have hran := (refreshAll_ran execute hlive env).1
  intro chart w hw
  have hmem : chart ∈ s.charts.keys := by
    rw [← hran.keys]
    exact Ledger.mem_keys_iff.2 ⟨_, hw⟩
  obtain ⟨v, hv⟩ := Ledger.mem_keys_iff.1 hmem
  obtain ⟨met, hmet⟩ := hran.ran chart hmem v hv
  cases hmet.symm.trans hw
  exact ChartView.atRest_run (hmounted chart v hv) (hidle chart v hv).1 (hidle chart v hv).2
    execute met

/-- A refresh of a dashboard at rest does nothing. -/
theorem AtRest.refreshAll (h : s.AtRest) (execute : Executor ε) (env : ε) :
    s.refreshAll execute env = (.done s 0, env) := by
  refine runCharts_atRest execute (fun chart hchart => ?_) 0 env
  obtain ⟨v, hv⟩ := Ledger.mem_keys_iff.1 hchart
  exact ⟨v, hv, h chart v hv⟩

/-- However a session begins and whatever is called, as long as no chart has been removed behind its
back or waits for an answer: a refresh answers with the number of charts that wait for a query and
pass the checks, and it sends one request for each of these, in order, and no others. Afterwards
every chart shows an answer, an error, or a hint of the field that is missing, and a second refresh
sends nothing, tells nobody, changes nothing and answers with zero. -/
theorem refreshAll_settles (start : SessionStart) (calls : List SessionCall)
    (hidle : (start.session.after calls).Idle) :
    let s := start.session.after calls
    (s.due.length = s.charts.entries.countP fun entry =>
      entry.2.awaitsQuery && (entry.2.spec.validate entry.2.catalog).isOk) ∧
    ∀ {ε ε' : Type} (first : Executor ε) (env : ε) (second : Executor ε') (env' : ε'),
      let refreshed := (s.refreshAll first env).1
      refreshed.answer = .ok s.due.length ∧
      (∀ sent, s.refreshAll (Executor.noting first) (env, sent) =
        (refreshed, (s.refreshAll first env).2, sent ++ s.due)) ∧
      refreshed.state.AtRest ∧
      refreshed.state.refreshAll second env' = (.done refreshed.state 0, env') := by
  intro s
  refine ⟨length_due s, fun first env second env' => ?_⟩
  intro refreshed
  have hmounted : s.AllMounted := allMounted_after start calls
  have hlive : s.AllLive := hmounted.allLive fun chart v hv => (hidle chart v hv).1
  obtain ⟨-, hanswer, hnoting⟩ := refreshAll_ran first hlive env
  have hrest : refreshed.state.AtRest := atRest_refreshAll hmounted hidle first env
  exact ⟨hanswer, hnoting, hrest, hrest.refreshAll second env'⟩

/-- A pie of sales and a chart of which nothing has been filled in. -/
def pieAndDraft : List SessionCall :=
  [.addChart (Uuid.ofNat 1) (some salesPie) {}, .addChart (Uuid.ofNat 2) none {}]

/-- Of a pie and a chart that is still to be filled in only the pie is asked for, and it is asked
for once. -/
theorem refreshAll_settles_pieAndDraft :
    let s := salesStart.session.after pieAndDraft
    let refreshed := (s.refreshAll counting 0).1
    s.Idle ∧ refreshed.answer = .ok 1 ∧
      refreshed.state.refreshAll counting 1 = (.done refreshed.state 0, 1) := by
  intro s refreshed
  have hidle : s.Idle := by
    intro chart v hv
    rcases List.mem_pair.1 (Ledger.get?_eq_some_iff.1 hv) with h | h
    · cases h
      exact ⟨nofun, nofun⟩
    · cases h
      exact ⟨nofun, nofun⟩
  obtain ⟨hanswer, -, -, hagain⟩ :=
    (refreshAll_settles salesStart pieAndDraft hidle).2 counting 0 counting 1
  exact ⟨hidle, hanswer, hagain⟩

end Session

end Chartboard
