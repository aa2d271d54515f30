import Chartboard.Proofs.Query.Compilation
import Chartboard.Proofs.View.Display
import Chartboard.Proofs.View.Refusals

/-!
# Runs of a chart

A chart that is run sends the request that is due, if there is one, and takes the answer to it. Only
the answer can come from outside, so what a run leaves is known once the answer is. A chart that has
been run is at rest: it shows an answer, an error, or a hint of what is still to be filled in, and
running it again neither asks anybody nor changes anything.
-/

namespace Chartboard

/-! ## Charts that have been mounted -/

/-- The chart has been mounted, and may have been removed since. -/
def Phase.hasBegun : Phase → Bool
  | .uninitialized | .hydrating => false
  | _ => true

/-- Once a chart has been mounted it stays so. -/
theorem Display.hasBegun_move {before after : Display} (h : before.phase.hasBegun = true)
    (move : before.Move after) : after.phase.hasBegun = true := by
  cases move with
  | rest => exact h
  | _ => rfl

namespace ChartView

variable {ε : Type} {v : ChartView}

/-- A chart takes calls if it has been mounted and not been removed. -/
theorem refusal?_of_hasBegun (h : v.phase.hasBegun = true) (hlive : v.phase ≠ .tornDown) :
    v.refusal? = none := by
  cases hp : v.phase with
  | uninitialized => rw [hp] at h; cases h
  | hydrating => rw [hp] at h; cases h
  | tornDown => exact absurd hp hlive
  | _ => simp only [refusal?, hp]

/-! ## Due requests -/

/-- The request that the chart sends when it is run, if it waits for a query and has one to send. -/
def due? (v : ChartView) : Option Request :=
  if v.awaitsQuery then v.nextRequest.toOption else none

/-- A chart that has passed the checks has a request to send. -/
theorem nextRequest_isOk (v : ChartView) :
    v.nextRequest.isOk = (v.spec.validate v.catalog).isOk := by
  unfold nextRequest
  cases hvalid : v.spec.validate v.catalog with
  | error e => rfl
  | ok _ =>
    obtain ⟨request, hrequest⟩ :=
      Spec.compile_total (Spec.validate_eq_ok.1 hvalid) v.limits v.filters
    show (v.spec.compile v.limits v.filters).isOk = true
    rw [hrequest]
    rfl

/-- A request is due exactly if the chart waits for a query and its specification passes the
checks. -/
theorem due?_isSome (v : ChartView) :
    v.due?.isSome = (v.awaitsQuery && (v.spec.validate v.catalog).isOk) := by
  rw [due?, ← nextRequest_isOk]
  cases v.awaitsQuery with
  | false => rfl
  | true =>
    cases v.nextRequest with
    | ok request => rfl
    | error e => rfl

/-- A query is due on a chart that waits for one and can make one. -/
theorem due?_eq_some {request : Request} (h : v.due? = some request) :
    v.awaitsQuery = true ∧ v.nextRequest = .ok request := by
  unfold due? at h
  split at h
  · next hawaits =>
    cases hrequest : v.nextRequest with
    | ok other =>
      rw [hrequest] at h
      cases h
      exact ⟨hawaits, rfl⟩
    | error e =>
      rw [hrequest] at h
      cases h
  · cases h

/-- A chart that waits for a query does not refuse. -/
theorem refusal?_of_awaitsQuery (h : v.awaitsQuery = true) : v.refusal? = none := by
  cases hp : v.phase with
  | ready => simp only [refusal?, hp]
  | stale => simp only [refusal?, hp]
  | _ => simp [awaitsQuery, hp] at h

/-! ## What a run leaves -/

/-- The chart after its next query has been sent. -/
def asking (v : ChartView) : ChartView :=
  { v with
    phase := .compiling (v.generation + 1)
    generation := v.generation + 1
    render := none
    fault := none }

/-- A query that is due is handed out with the next number. -/
theorem poll_of_due {request : Request} (h : v.due? = some request) :
    v.poll = .done v.asking (some ⟨v.id, v.generation + 1, request⟩) := by
  obtain ⟨hawaits, hrequest⟩ := due?_eq_some h
  rw [poll, whenLive_of_live (refusal?_of_awaitsQuery hawaits), if_pos hawaits, hrequest]
  rfl

/-- A chart without a due request hands out none when it is polled. -/
theorem poll_of_not_due (hlive : v.refusal? = none) (h : v.due? = none) :
    v.poll.answer = .ok none := by
  rw [poll, whenLive_of_live hlive]
  unfold due? at h
  split
  · next hawaits =>
    rw [if_pos hawaits] at h
    split
    · next request hrequest =>
      rw [hrequest] at h
      cases h
    · split
      · rfl
      · rfl
  · rfl

/-- A run with a due request sends it and takes the answer. -/
theorem run_of_due {request : Request} (h : v.due? = some request) (execute : Executor ε)
    (env : ε) :
    v.run execute env =
      (v.asking.complete (v.generation + 1) (execute request env).1, (execute request env).2) := by
  simp only [run, poll_of_due h, Turn.done, Turn.andThen, List.nil_append]

/-- A run without a due request asks nobody. -/
theorem run_of_not_due (hlive : v.refusal? = none) (h : v.due? = none) (execute : Executor ε)
    (env : ε) : v.run execute env = (v.poll.andThen fun v _ => .done v false, env) := by
  simp only [run, poll_of_not_due hlive h]

/-- A chart that has sent its query takes the answer, whatever it is. -/
theorem complete_asking (v : ChartView) (result : Except QueryError Response) :
    (v.asking.complete (v.generation + 1) result).answer = .ok true := by
  have hwaits : v.generation + 1 = v.asking.generation ∧
      v.asking.phase = .compiling (v.generation + 1) := ⟨rfl, rfl⟩
  rw [complete.eq_def, whenLive_of_live rfl, if_pos hwaits]
  cases result with
  | ok response => rfl
  | error e => rfl

/-- A run takes an answer exactly if a request was due. -/
theorem run_answer (hlive : v.refusal? = none) (execute : Executor ε) (env : ε) :
    (v.run execute env).1.answer = .ok v.due?.isSome := by
  cases hdue : v.due? with
  | some request =>
    rw [run_of_due hdue]
    exact complete_asking v _
  | none =>
    rw [run_of_not_due hlive hdue]
    exact (Turn.andThen_of_ok _ (poll_of_not_due hlive hdue)).2

/-- The turn of a run depends on the answer only: whoever gives the same answer to the same request
gets the same turn out of the chart. -/
theorem run_congr {ε' : Type} (v : ChartView) {first : Executor ε} {second : Executor ε'} {env : ε}
    {env' : ε'} (h : ∀ request, (first request env).1 = (second request env').1) :
    (v.run first env).1 = (v.run second env').1 := by
  unfold run
  dsimp only
  split
  · next pending hpending => simp only [h]
  · rfl

/-! ## Charts at rest -/

/-- The chart shows an answer, an error, or a hint of the field that is still to be filled in. -/
inductive AtRest (v : ChartView) : Prop where
  /-- It shows an answer. -/
  | rendered (generation : Nat) (phase : v.phase = .rendered generation)
  /-- It shows an error. -/
  | failed (phase : v.phase = .failed)
  /-- It waits with a hint. -/
  | hinted (field : SpecField) (phase : v.phase = .stale)
    (missing : v.nextRequest = .error (.missingField field))
    (fault : v.fault = some (.ofValidation (.missingField field)))

/-- Polling a chart at rest does nothing. -/
theorem AtRest.poll (h : v.AtRest) : v.poll = .done v none := by
  cases h with
  | rendered generation phase =>
    rw [ChartView.poll, whenLive_of_live (by simp only [refusal?, phase]),
      if_neg (by simp [awaitsQuery, phase])]
  | failed phase =>
    rw [ChartView.poll, whenLive_of_live (by simp only [refusal?, phase]),
      if_neg (by simp [awaitsQuery, phase])]
  | hinted field phase missing fault =>
    have hsame : { v with phase := .stale, fault := some (.ofValidation (.missingField field)) } =
        v := by
      rw [← phase, ← fault]
    rw [ChartView.poll, whenLive_of_live (by simp only [refusal?, phase]),
      if_pos (by simp [awaitsQuery, phase]), missing]
    exact congrArg (Turn.done · none) hsame

/-- Running a chart at rest asks nobody and does nothing. -/
theorem AtRest.run (h : v.AtRest) (execute : Executor ε) (env : ε) :
    v.run execute env = (.done v false, env) := by
  simp only [ChartView.run, h.poll, Turn.done, Turn.andThen, List.append_nil]

/-- Once the query is answered, whatever the answer, the chart is at rest. -/
theorem atRest_complete_asking (v : ChartView) (result : Except QueryError Response) :
    (v.asking.complete (v.generation + 1) result).state.AtRest := by
  have hwaits : v.generation + 1 = v.asking.generation ∧
      v.asking.phase = .compiling (v.generation + 1) := ⟨rfl, rfl⟩
  rw [complete.eq_def, whenLive_of_live rfl, if_pos hwaits]
  cases result with
  | ok response => exact .rendered (v.generation + 1) rfl
  | error e => exact .failed rfl

/-- A chart without a due request is at rest once it has been polled, unless it waits for an
answer. -/
theorem atRest_poll (hbegun : v.phase.hasBegun = true) (hlive : v.phase ≠ .tornDown)
    (hidle : ∀ generation, v.phase ≠ .compiling generation) (h : v.due? = none) :
    v.poll.state.AtRest := by
  rw [ChartView.poll, whenLive_of_live (refusal?_of_hasBegun hbegun hlive)]
  split
  · next hawaits =>
    rw [due?, if_pos hawaits] at h
    split
    · next request hrequest =>
      rw [hrequest] at h
      cases h
    · next e hrequest =>
      split
      · next hincomplete =>
        cases e with
        | missingField field => exact .hinted field rfl hrequest rfl
        | _ => cases hincomplete
      · exact .failed rfl
  · next hawaits =>
    cases hp : v.phase with
    | uninitialized => rw [hp] at hbegun; cases hbegun
    | hydrating => rw [hp] at hbegun; cases hbegun
    | ready => simp [awaitsQuery, hp] at hawaits
    | stale => simp [awaitsQuery, hp] at hawaits
    | compiling generation => exact absurd hp (hidle generation)
    | rendered generation => exact .rendered generation hp
    | failed => exact .failed hp
    | tornDown => exact absurd hp hlive

/-- A run brings a chart to rest, unless the chart waits for an answer already. -/
theorem atRest_run (hbegun : v.phase.hasBegun = true) (hlive : v.phase ≠ .tornDown)
    (hidle : ∀ generation, v.phase ≠ .compiling generation) (execute : Executor ε) (env : ε) :
    (v.run execute env).1.state.AtRest := by
  cases hdue : v.due? with
  | some request =>
    rw [run_of_due hdue]
    exact atRest_complete_asking v _
  | none =>
    have hrefusal := refusal?_of_hasBegun hbegun hlive
    rw [run_of_not_due hrefusal hdue]
    show (v.poll.andThen fun v _ => .done v false).state.AtRest
    rw [(Turn.andThen_of_ok _ (poll_of_not_due hrefusal hdue)).1]
    exact atRest_poll hbegun hlive hidle hdue

end ChartView

/-! ## Requests that are noted -/

/-- The same executor, which also notes the requests that it is sent, in order. -/
def Executor.noting {ε : Type} (execute : Executor ε) : Executor (ε × List Request) :=
  fun request (env, sent) =>
    ((execute request env).1, (execute request env).2, sent ++ [request])

/-- An executor that notes the requests answers them as before. -/
theorem ChartView.run_noting {ε : Type} {v : ChartView} (hlive : v.refusal? = none)
    (execute : Executor ε) (env : ε) (sent : List Request) :
    v.run (Executor.noting execute) (env, sent) =
      ((v.run execute env).1, (v.run execute env).2, sent ++ v.due?.toList) := by
  cases hdue : v.due? with
  | some request =>
    rw [run_of_due hdue, run_of_due hdue]
    rfl
  | none =>
    rw [run_of_not_due hlive hdue, run_of_not_due hlive hdue, Option.toList_none,
      List.append_nil]

end Chartboard
