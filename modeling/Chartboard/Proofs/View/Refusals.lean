import Chartboard.Proofs.View.Broadcasts

/-!
# Refused calls

A call on a chart is done or refused, and a refused one leaves the chart as it was and tells nobody.
A removed chart refuses whatever can be refused, also when calls go on: it cannot be mounted again,
and an answer that comes late finds nobody.
-/

namespace Chartboard

/-- The call can be refused. Following a chart, no longer following it, and removing it cannot. -/
def ViewCall.mayRefuse : ViewCall → Bool
  | .subscribe _ | .unsubscribe _ | .tearDown => false
  | _ => true

/-- The call is done, or it is refused without a trace. -/
inductive Turn.Atomic {α : Type} (v : ChartView) (turn : Turn ChartView α) : Prop where
  /-- The call is done. -/
  | done (value : α) (answer : turn.answer = .ok value)
  /-- The chart stays as it was, and nobody is told. -/
  | refused (refusal : Refusal) (turn_eq : turn = .refused v refusal)

namespace Turn

variable {α : Type} {v : ChartView} {turn : Turn ChartView α}

/-- A refused turn leaves no trace. -/
theorem Atomic.eq_refused (h : turn.Atomic v) {refusal : Refusal}
    (answer : turn.answer = .error refusal) : turn = .refused v refusal := by
  cases h with
  | done value hdone =>
    rw [hdone] at answer
    cases answer
  | refused other turn_eq =>
    rw [turn_eq] at answer
    cases answer
    exact turn_eq

/-- Another form of the answer leaves a turn as it is. -/
theorem Atomic.replying (h : turn.Atomic v) (reply : α → Reply) :
    (turn.replying reply).Atomic v := by
  cases h with
  | done value hdone => exact .done (reply value) (by rw [Turn.replying, hdone]; rfl)
  | refused refusal turn_eq => exact .refused refusal (by rw [turn_eq]; rfl)

end Turn

namespace ChartView

/-! ## Calls that are refused -/

/-- A call that only a mounted chart takes, and that a mounted chart does not refuse. -/
theorem atomic_whenLive {α : Type} {v : ChartView} {turn : Turn ChartView α}
    (h : ∃ value, turn.answer = .ok value) : (v.whenLive turn).Atomic v := by
  obtain ⟨value, hvalue⟩ := h
  exact whenLive_induction (motive := fun turn => turn.Atomic v)
    (fun refusal => .refused refusal rfl) fun _ => .done value hvalue

/-- Mounting is done, or refused without a trace. -/
theorem atomic_mount (v : ChartView) (persisted : Option Spec) :
    (v.perform (.mount persisted)).Atomic v := by
  cases hphase : v.phase with
  | tornDown =>
    refine .refused (.tornDown v.id) ?_
    simp only [perform, mount, hphase]
    rfl
  | uninitialized =>
    rw [perform_mount_of_new hphase]
    exact .done .nothing rfl
  | _ =>
    refine .done .nothing ?_
    simp only [perform, mount, hphase]
    rfl

/-- Hydrating is done, or refused without a trace. -/
theorem atomic_hydrate (v : ChartView) (persisted : Spec) : (v.hydrate persisted).Atomic v := by
  unfold hydrate
  split
  · exact .refused (.tornDown v.id) rfl
  · split
    · exact .done false rfl
    · exact .done true rfl

/-- A new specification is taken, or refused without a trace. -/
theorem atomic_replaceSpec (v : ChartView) (spec : Spec) : (v.replaceSpec spec).Atomic v := by
  refine atomic_whenLive ?_
  split
  · exact ⟨false, rfl⟩
  · exact ⟨true, rfl⟩

/-- New filters are taken, or refused without a trace. -/
theorem atomic_setFilters (v : ChartView) (filters : FilterSet) :
    (v.setFilters filters).Atomic v := by
  refine atomic_whenLive ?_
  split
  · exact ⟨false, rfl⟩
  · exact ⟨true, rfl⟩

/-- New columns are taken, or refused without a trace. -/
theorem atomic_setCatalog (v : ChartView) (catalog : Catalog) :
    (v.setCatalog catalog).Atomic v := by
  refine atomic_whenLive ?_
  split
  · exact ⟨false, rfl⟩
  · exact ⟨true, rfl⟩

/-- A refresh is done, or refused without a trace. -/
theorem atomic_refresh (v : ChartView) : v.refresh.Atomic v :=
  atomic_whenLive ⟨(), rfl⟩

/-- Handing out a query is done, or refused without a trace. -/
theorem atomic_poll (v : ChartView) : v.poll.Atomic v := by
  refine atomic_whenLive ?_
  split
  · split
    · exact ⟨_, rfl⟩
    · split
      · exact ⟨none, rfl⟩
      · exact ⟨none, rfl⟩
  · exact ⟨none, rfl⟩

/-- An answer is dealt with, or refused without a trace. -/
theorem atomic_complete (v : ChartView) (generation : Nat) (result : Except QueryError Response) :
    (v.complete generation result).Atomic v := by
  refine atomic_whenLive ?_
  split
  · split
    · exact ⟨true, rfl⟩
    · exact ⟨true, rfl⟩
  · exact ⟨false, rfl⟩

/-- A point is selected, or refused without a trace. -/
theorem atomic_selectPoint (v : ChartView) (value : Json.Value) :
    (v.selectPoint value).Atomic v :=
  atomic_whenLive ⟨v.spec.selection? value, rfl⟩

/-- Every call is done, or it is refused without a trace. -/
theorem atomic_perform (v : ChartView) (call : ViewCall) : (v.perform call).Atomic v := by
  cases call with
  | mount persisted => exact atomic_mount v persisted
  | hydrate persisted => exact (atomic_hydrate v persisted).replying _
  | edit e => exact (atomic_replaceSpec v (v.spec.apply e)).replying _
  | replaceSpec spec => exact (atomic_replaceSpec v spec).replying _
  | setFilters filters => exact (atomic_setFilters v filters).replying _
  | setCatalog catalog => exact (atomic_setCatalog v catalog).replying _
  | refresh => exact (atomic_refresh v).replying _
  | poll => exact (atomic_poll v).replying _
  | complete generation result => exact (atomic_complete v generation result).replying _
  | selectPoint value => exact (atomic_selectPoint v value).replying _
  | subscribe subscriber => exact .done .nothing rfl
  | unsubscribe subscriber => exact .done .nothing rfl
  | tearDown => exact .done .nothing rfl

/-- A chart that has handed out a query takes an answer to it or leaves it, and refuses none. -/
theorem complete_of_polled {v : ChartView} {pending : PendingQuery}
    (h : v.poll.answer = .ok (some pending)) (generation : Nat)
    (result : Except QueryError Response) :
    ∃ taken, (v.poll.state.complete generation result).answer = .ok taken := by
  have hmounted : v.phase.stage = .mounted :=
    whenLive_induction
      (motive := fun turn => turn.answer = .ok (some pending) → v.phase.stage = .mounted)
      (fun _ hrefused => by cases hrefused) (fun hlive _ => hlive) h
  have hlive : v.poll.state.refusal? = none :=
    refusal?_eq_none_iff.2 ((congrArg Sheet.stage v.sheet_poll).trans hmounted)
  simp only [complete, whenLive, hlive]
  split
  · split
    · exact ⟨true, rfl⟩
    · exact ⟨true, rfl⟩
  · exact ⟨false, rfl⟩

/-- A run is refused only if its query is, and then nobody is asked. -/
theorem run_refused {ε : Type} {v : ChartView} {execute : Executor ε} {env : ε} {refusal : Refusal}
    (h : v.poll = .refused v refusal) : v.run execute env = (.refused v refusal, env) := by
  simp only [run, h, Turn.refused, Turn.andThen]

/-- A run that is refused is refused when it asks for its query. -/
theorem poll_of_run_refused {ε : Type} {v : ChartView} {execute : Executor ε} {env : ε}
    {refusal : Refusal} (h : (v.run execute env).1.answer = .error refusal) :
    v.poll = .refused v refusal := by
  cases hanswer : v.poll.answer with
  | error other =>
    have hpoll := (atomic_poll v).eq_refused hanswer
    rw [run_refused hpoll] at h
    cases h
    exact hpoll
  | ok pending? =>
    exfalso
    cases pending? with
    | none =>
      simp only [run, hanswer, Turn.andThen] at h
      cases h
    | some pending =>
      obtain ⟨taken, htaken⟩ := complete_of_polled hanswer pending.generation
        (execute pending.request env).1
      simp only [run, hanswer] at h
      rw [(Turn.andThen_of_ok _ hanswer).2, htaken] at h
      cases h

/-! ## Removed charts -/

/-- Once a chart is removed it stays removed. -/
theorem tornDown_after {v : ChartView} {calls : List ViewCall} (h : .tearDown ∈ calls) :
    (v.after calls).phase = .tornDown := by
  induction calls using List.reverseRecOn with
  | nil => cases h
  | append_singleton calls call ih =>
    rw [after_append]
    rcases List.mem_append.1 h with hearlier | hlast
    · exact removed_perform (ih hearlier) call
    · rw [← List.mem_singleton.1 hlast]
      exact stage_removed_iff.1 (congrArg Sheet.stage (v.after calls).sheet_tearDown)

/-- A removed chart refuses, and says that it is removed. -/
theorem refusal_of_tornDown {v : ChartView} (h : v.phase = .tornDown) :
    v.refusal? = some (.tornDown v.id) := by
  unfold refusal?
  rw [h]

/-- A removed chart refuses every call that may be refused. -/
theorem perform_of_tornDown {v : ChartView} (h : v.phase = .tornDown) {call : ViewCall}
    (hcall : call.mayRefuse = true) : v.perform call = .refused v (.tornDown v.id) := by
  have hrefusal := refusal_of_tornDown h
  cases call with
  | mount persisted =>
    simp only [perform, mount, h]
    rfl
  | hydrate persisted =>
    simp only [perform, hydrate, h, if_true]
    rfl
  | subscribe subscriber => cases hcall
  | unsubscribe subscriber => cases hcall
  | tearDown => cases hcall
  | _ =>
    simp only [perform, edit, replaceSpec, setFilters, setCatalog, refresh, poll, complete,
      selectPoint, whenLive, hrefusal]
    rfl

/-- A removed chart is not run. -/
theorem run_of_tornDown {ε : Type} {v : ChartView} (h : v.phase = .tornDown)
    (execute : Executor ε) (env : ε) :
    v.run execute env = (.refused v (.tornDown v.id), env) :=
  run_refused (by rw [poll, whenLive, refusal_of_tornDown h])

end ChartView

/-- In every history of a new view, a call or a run that is refused leaves the chart entirely as it
was, tells nobody and asks nobody. Once the chart has been removed, whatever has been called since,
every call that may be refused and every run is refused because the chart is removed. Running a
chart leads only where calls lead. -/
theorem refused_without_trace (id : Uuid) (catalog : Catalog) (options : List ViewOption)
    (calls : List ViewCall) :
    let now := (ChartView.build id catalog options).after calls
    (∀ call refusal, (now.perform call).answer = .error refusal →
      now.perform call = .refused now refusal) ∧
    (∀ {ε : Type} (execute : Executor ε) (env : ε) (refusal : Refusal),
      (now.run execute env).1.answer = .error refusal →
      now.run execute env = (.refused now refusal, env)) ∧
    (.tearDown ∈ calls →
      (∀ call, call.mayRefuse = true → now.perform call = .refused now (.tornDown id)) ∧
      ∀ {ε : Type} (execute : Executor ε) (env : ε),
        now.run execute env = (.refused now (.tornDown id), env)) ∧
    ∀ {ε : Type} (execute : Executor ε) (env : ε),
      ∃ more, (now.run execute env).1.state = now.after more := by
  intro now
  refine ⟨?_, ?_, ?_, ?_⟩
  · intro call refusal hanswer
    exact (now.atomic_perform call).eq_refused hanswer
  · intro ε execute env refusal hanswer
    exact ChartView.run_refused (ChartView.poll_of_run_refused hanswer)
  · intro htorn
    have hphase : now.phase = .tornDown := ChartView.tornDown_after htorn
    have hid : now.id = id :=
      ((ChartView.build id catalog options).after_alike calls).id.trans
        (ChartView.build_id id catalog options)
    rw [← hid]
    exact ⟨fun call hcall => ChartView.perform_of_tornDown hphase hcall,
      fun execute env => ChartView.run_of_tornDown hphase execute env⟩
  · exact fun execute env => now.run_eq_after execute env

end Chartboard
