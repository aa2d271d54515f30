import Chartboard.Proofs.View.Generations

/-!
# Answers that are taken

An answer is taken only by a chart that has waited for it since its query was sent: nothing that the
query depends on has been changed in between, and the query is still the last one. Taking it is told
by one event. An answer that is not taken leaves the chart as it is and is not told of.
-/

namespace Chartboard

/-- The chart has waited for an answer since its last query was sent. -/
def Waited (steps : List ViewStep) (generation : Nat) : Prop :=
  ∃ front poll between query, steps = front ++ poll :: between ∧ poll.call = .poll ∧
    poll.issued? = some query ∧ query.generation = generation ∧
    ∀ step ∈ between, step.outdates = false

/-- A chart still waits after a step that outdates nothing. -/
theorem waited_concat {steps : List ViewStep} {step : ViewStep} {generation : Nat}
    (h : Waited steps generation) (outdates : step.outdates = false) :
    Waited (steps ++ [step]) generation := by
  obtain ⟨front, poll, between, query, hsteps, hcall, hissued, hnumber, hbetween⟩ := h
  refine ⟨front, poll, between ++ [step], query, ?_, hcall, hissued, hnumber, ?_⟩
  · rw [hsteps, List.append_assoc, List.cons_append]
  · intro other hother
    rcases List.mem_append.mp hother with hother | hother
    · exact hbetween other hother
    · rw [List.mem_singleton.mp hother]
      exact outdates

/-- Of all steps only those that change nothing keep a chart waiting. -/
theorem waited_step {steps : List ViewStep} {step : ViewStep}
    (h : step.before.phase = .compiling step.before.generation →
      Waited steps step.before.generation) (effect : step.Effect) :
    step.turn.state.phase = .compiling step.turn.state.generation →
      Waited (steps ++ [step]) step.turn.state.generation := by
  intro hcompiling
  cases effect with
  | rest subscribers state issued taken outdates =>
    rw [state] at hcompiling ⊢
    exact waited_concat (h hcompiling) outdates
  | leave phase generation alike issued taken =>
    rw [hcompiling] at phase
    cases phase
  | issue request call request_eq turn =>
    refine ⟨steps, step, [], _, rfl, call, ViewStep.issued?_of_done turn, ?_, ?_⟩
    · rw [turn]
      rfl
    · exact fun other hother => absurd hother List.not_mem_nil
  | draw response call phase turn =>
    rw [turn] at hcompiling
    cases hcompiling
  | fail error call phase turn =>
    rw [turn] at hcompiling
    cases hcompiling

/-- In every history, a chart that awaits an answer has waited for it since its query was sent. -/
theorem waited_history {v : ChartView} (h : v.IsNew) (calls : List ViewCall) :
    (v.after calls).phase = .compiling (v.after calls).generation →
      Waited (v.steps calls) (v.after calls).generation := by
  refine v.history_induction (motive := fun steps now =>
    now.phase = .compiling now.generation → Waited steps now.generation) ?_ ?_ calls
  · intro hphase
    rw [h.phase] at hphase
    cases hphase
  · intro steps now call ih
    exact waited_step ih (now.perform_effect call)

/-- The event that tells of an answer that was taken. -/
def Tells (v : ChartView) (generation : Nat) (result : Except QueryError Response)
    (shown : ChartView) (event : Event) : Prop :=
  match result with
  | .ok _ => ∃ model, shown.render = some model ∧
      event = .chartRendered v.id generation shown.spec.kind model.isEmpty
  | .error e => event = .chartFailed v.id (ChartFault.ofQuery e).message true

/-- A step that takes an answer takes the one that the chart waits for, and tells so. -/
theorem taking_step {step : ViewStep} (effect : step.Effect) {generation : Nat}
    {result : Except QueryError Response} (call : step.call = .complete generation result)
    (answer : step.turn.answer = .ok (.flag true)) :
    generation = step.before.generation ∧ step.before.phase = .compiling step.before.generation ∧
      ∃ event, Tells step.before generation result step.turn.state event ∧
        step.turn.notices = step.before.publish event := by
  have htaken := ViewStep.taken?_of_complete call answer
  cases effect with
  | rest subscribers state issued taken outdates =>
    rw [htaken] at taken
    cases taken
  | leave phase generation alike issued taken =>
    rw [htaken] at taken
    cases taken
  | issue request hpoll request_eq turn =>
    rw [hpoll] at call
    cases call
  | draw response hcall phase turn =>
    rw [hcall] at call
    cases call
    refine ⟨rfl, phase, _, ⟨step.before.draw response, by rw [turn], rfl⟩, ?_⟩
    rw [turn]
  | fail error hcall phase turn =>
    rw [hcall] at call
    cases call
    refine ⟨rfl, phase, _, rfl, ?_⟩
    rw [turn]
    rfl

/-- A step that does not take the answer it is given changes nothing and tells nobody. -/
theorem complete_refusing {v : ChartView} {generation : Nat} {result : Except QueryError Response}
    (h : (v.complete generation result).answer = .ok false) :
    v.complete generation result = .done v false := by
  cases hrefusal : v.refusal? with
  | some refusal =>
    simp only [ChartView.complete, ChartView.whenLive, hrefusal] at h
    cases h
  | none =>
    simp only [ChartView.complete, ChartView.whenLive, hrefusal] at h ⊢
    split at h
    · cases result <;> cases h
    · next hwaits => rw [if_neg hwaits]

/-! ## Histories of a new view -/

variable {v : ChartView} {calls : List ViewCall}

/-- Queries are numbered from one on. -/
theorem issued_generation (h : v.IsNew) {n : Nat} {query : PendingQuery}
    (hquery : (issued (v.steps calls))[n]? = some query) : query.generation = n + 1 := by
  have hnumbers := (numbered_history h calls).issued
  have hlength := congrArg List.length hnumbers
  rw [List.length_map, List.length_range'] at hlength
  have hlt : n < (v.after calls).generation :=
    hlength ▸ (List.getElem?_eq_some_iff.mp hquery).1
  have hnumber := congrArg (fun numbers => numbers[n]?) hnumbers
  rw [List.getElem?_map, hquery, Option.map_some, List.getElem?_range' hlt] at hnumber
  have hvalue := Option.some.inj hnumber
  omega

/-- An answer that is taken is the one to the last query, which the chart has waited for, and one
event tells of it. -/
theorem taking_history (h : v.IsNew) {earlier later : List ViewStep} {step : ViewStep}
    (hsteps : v.steps calls = earlier ++ step :: later) {generation : Nat}
    {result : Except QueryError Response} (hcall : step.call = .complete generation result)
    (hanswer : step.turn.answer = .ok (.flag true)) :
    Waited earlier generation ∧ (∀ query ∈ issued earlier, query.generation ≤ generation) ∧
      ∃ event, Tells v generation result step.turn.state event ∧
        step.turn.notices = if v.publishes then [.published event] else [] := by
  obtain ⟨front, hearlier, hbefore, hturn⟩ := ChartView.steps_eq_append_cons hsteps
  have heffect : step.Effect := by
    have heffect := step.before.perform_effect step.call
    rwa [← hturn] at heffect
  obtain ⟨hgeneration, hphase, event, htells, hnotices⟩ := taking_step heffect hcall hanswer
  have halike := v.after_alike front
  rw [← hbefore] at halike
  have hnumbered := numbered_history h front
  rw [← hearlier, ← hbefore] at hnumbered
  have hwaited := waited_history h front
  rw [← hearlier, ← hbefore] at hwaited
  refine ⟨hgeneration ▸ hwaited hphase, ?_, event, ?_, ?_⟩
  · intro query hquery
    have hmem : query.generation ∈ List.range' 1 step.before.generation := by
      rw [← hnumbered.issued]
      exact List.mem_map_of_mem hquery
    rw [List.mem_range'_1] at hmem
    omega
  · unfold Tells at htells ⊢
    rwa [halike.id] at htells
  · rw [hnotices, ChartView.publish, halike.publishes]

/-- An answer that is not taken leaves the view as it is and is not told of. -/
theorem refusing_history {step : ViewStep} (hstep : step ∈ v.steps calls) {generation : Nat}
    {result : Except QueryError Response} (hcall : step.call = .complete generation result)
    (hanswer : step.turn.answer = .ok (.flag false)) :
    step.turn.state = step.before ∧ step.turn.notices = [] := by
  obtain ⟨earlier, later, hsteps⟩ := List.append_of_mem hstep
  obtain ⟨front, hearlier, hbefore, hturn⟩ := ChartView.steps_eq_append_cons hsteps
  rw [hcall] at hturn
  have hrefusing : (step.before.complete generation result).answer = .ok false := by
    rw [hturn] at hanswer
    simp only [ChartView.perform, Turn.replying] at hanswer
    cases hcomplete : (step.before.complete generation result).answer with
    | error refusal =>
      rw [hcomplete] at hanswer
      cases hanswer
    | ok flag =>
      rw [hcomplete] at hanswer
      cases hanswer
      rfl
  rw [hturn, ChartView.perform, complete_refusing hrefusing]
  exact ⟨rfl, rfl⟩

/-- In every history of a new view the queries are numbered from one on in the order in which they
are sent. Answers are taken in the order of their queries, one at most for each. An answer that is
taken is the one to the last query so far, and since that query was sent neither the specification
nor the filters nor the columns have been changed and no new query has been asked for; one event
tells of it. An answer that is not taken leaves the view as it is and is not told of. -/
theorem answers_taken_in_order (id : Uuid) (catalog : Catalog) (options : List ViewOption)
    (calls : List ViewCall) :
    let v := ChartView.build id catalog options
    let steps := v.steps calls
    (∀ n query, (issued steps)[n]? = some query → query.generation = n + 1) ∧
    ((taken steps).Pairwise fun a b => a.1 < b.1) ∧
    (∀ earlier step later generation result, steps = earlier ++ step :: later →
      step.call = .complete generation result → step.turn.answer = .ok (.flag true) →
      Waited earlier generation ∧ (∀ query ∈ issued earlier, query.generation ≤ generation) ∧
      ∃ event, Tells v generation result step.turn.state event ∧
        step.turn.notices = if v.publishes then [.published event] else []) ∧
    (∀ step ∈ steps, ∀ generation result, step.call = .complete generation result →
      step.turn.answer = .ok (.flag false) →
      step.turn.state = step.before ∧ step.turn.notices = []) := by
  intro v steps
  have hnew : v.IsNew := ChartView.build_isNew id catalog options
  refine ⟨?_, (numbered_history hnew calls).taken_ascending, ?_, ?_⟩
  · intro n query hquery
    exact issued_generation hnew hquery
  · intro earlier step later generation result hsteps hcall hanswer
    exact taking_history hnew hsteps hcall hanswer
  · intro step hstep generation result hcall hanswer
    exact refusing_history hstep hcall hanswer

end Chartboard
