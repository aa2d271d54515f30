import Chartboard.Proofs.View.Generations

/-!
# What is shown is current

A chart that waits for an answer has sent the request that its specification and filters call for
now, and a chart that shows an answer draws it by the specification that it has now. Every call that
would break this leaves the chart neither waiting nor showing, however late the call comes.
-/

namespace Chartboard

/-- Of elements in ascending order of their numbers only the last one has its number. -/
theorem filter_concat_eq_singleton {α : Type} (number : α → Nat) {front : List α} {last : α}
    (h : (front ++ [last]).Pairwise fun a b => number a < number b) :
    (front ++ [last]).filter (fun a => number a = number last) = [last] := by
  rw [List.pairwise_append] at h
  have hfront : front.filter (fun a => number a = number last) = [] := by
    rw [List.filter_eq_nil_iff]
    intro a ha
    have hlt := h.2.2 a ha last (List.mem_singleton_self last)
    simp only [decide_eq_true_eq]
    omega
  rw [List.filter_append, hfront]
  simp only [List.nil_append, List.filter_cons, decide_true, if_true, List.filter_nil]

/-- What a chart that waits for an answer, or shows one, has sent and taken. -/
structure Current (steps : List ViewStep) (now : ChartView) : Prop where
  /-- The last query asks what the chart would ask now. -/
  asked : now.phase.isActive = true → ∃ front request,
    issued steps = front ++ [⟨now.id, now.generation, request⟩] ∧ now.nextRequest = .ok request
  /-- The last answer that was taken is drawn as the chart would draw it now. -/
  drawn : now.phase = .rendered now.generation → ∃ front response,
    taken steps = front ++ [(now.generation, .ok response)] ∧
      now.render = some (now.draw response)

/-- A view that neither waits nor shows is current. -/
theorem current_of_not_active {steps : List ViewStep} {now : ChartView}
    (h : now.phase.isActive = false) : Current steps now where
  asked hactive := by rw [h] at hactive; cases hactive
  drawn hrendered := by rw [hrendered] at h; cases h

/-- One more step keeps an active chart current. -/
theorem current_step {steps : List ViewStep} {step : ViewStep} (h : Current steps step.before)
    (effect : step.Effect) : Current (steps ++ [step]) step.turn.state := by
  cases effect with
  | rest subscribers state issued taken outdates =>
    have hissued := issued_concat_of_none steps issued
    have htaken := taken_concat_of_none steps taken
    rw [state]
    refine ⟨?_, ?_⟩
    · rw [hissued]
      exact h.asked
    · rw [htaken]
      exact h.drawn
  | leave phase generation alike issued taken => exact current_of_not_active phase
  | issue request call request_eq turn =>
    have hissued := issued_concat steps step
    rw [ViewStep.issued?_of_done turn] at hissued
    refine ⟨fun _ => ⟨issued steps, request, ?_, ?_⟩, ?_⟩
    · rw [hissued, turn]
      rfl
    · rw [turn]
      exact request_eq
    · intro hrendered
      rw [turn] at hrendered
      cases hrendered
  | draw response call phase turn =>
    have hanswer : step.turn.answer = .ok (.flag true) := by rw [turn]
    have htaken := taken_concat steps step
    rw [ViewStep.taken?_of_complete call hanswer] at htaken
    obtain ⟨front, request, hasked, hrequest⟩ := h.asked (by rw [phase]; rfl)
    refine ⟨fun _ => ⟨front, request, ?_, ?_⟩, fun _ => ⟨taken steps, response, ?_, ?_⟩⟩
    · rw [issued_concat_of_none steps (ViewStep.issued?_of_flag hanswer), turn]
      exact hasked
    · rw [turn]
      exact hrequest
    · rw [htaken, turn]
      rfl
    · rw [turn]
      rfl
  | fail error call phase turn =>
    refine current_of_not_active ?_
    rw [turn]
    rfl

/-- In every history an active chart is current. -/
theorem current_history {v : ChartView} (h : v.IsNew) (calls : List ViewCall) :
    Current (v.steps calls) (v.after calls) := by
  refine v.history_induction (motive := Current) ?_ ?_ calls
  · refine current_of_not_active ?_
    rw [h.phase]
    rfl
  · exact fun _ now call ih => current_step ih (now.perform_effect call)

/-- A request that would be sent belongs to a valid specification and is compiled from it. -/
theorem nextRequest_eq_ok {v : ChartView} {request : Request} (h : v.nextRequest = .ok request) :
    v.spec.validate v.catalog = .ok () ∧ v.spec.compile v.limits v.filters = .ok request := by
  unfold ChartView.nextRequest at h
  cases hvalid : v.spec.validate v.catalog with
  | error e =>
    rw [hvalid] at h
    cases h
  | ok _ =>
    rw [hvalid] at h
    exact ⟨rfl, h⟩

/-- Queries are handed out with ascending numbers. -/
theorem issued_ascending {steps : List ViewStep} {now : ChartView} (h : Numbered steps now) :
    (issued steps).Pairwise fun a b => a.generation < b.generation := by
  rw [← List.pairwise_map, h.issued]
  exact List.pairwise_lt_range'

/-- In every history of a new view, a chart that waits for the answer to a query or shows it is at
its last query. The one query of that number carries the request that the present specification and
filters are compiled to, and the specification passes the checks of the present columns. A chart
that shows an answer has taken one answer of that number, and draws it by the present specification:
the model that the response is adapted to and coloured, or the placeholder of why it is none. -/
theorem shown_is_current (id : Uuid) (catalog : Catalog) (options : List ViewOption)
    (calls : List ViewCall) (generation : Nat) :
    let v := ChartView.build id catalog options
    let now := v.after calls
    let steps := v.steps calls
    (now.phase = .compiling generation ∨ now.phase = .rendered generation) →
    generation = now.generation ∧ now.spec.validate now.catalog = .ok () ∧
    (∃ request, (issued steps).filter (fun query => query.generation = generation) =
        [⟨id, generation, request⟩] ∧
      now.spec.compile v.limits now.filters = .ok request) ∧
    (now.phase = .rendered generation → ∃ response,
      (taken steps).filter (fun answer => answer.1 = generation) = [(generation, .ok response)] ∧
      now.render = some
        (match RenderModel.ofResponse v.displayCap now.spec.kind now.spec response with
        | .ok model => model.colorize now.spec.colorsByMean
        | .error e => e.placeholder)) := by
  intro v now steps hphase
  have hnew : v.IsNew := ChartView.build_isNew id catalog options
  have hnumbered : Numbered steps now := numbered_history hnew calls
  have hcurrent : Current steps now := current_history hnew calls
  have halike : now.Alike v := v.after_alike calls
  have hactive : now.phase.isActive = true := by
    rcases hphase with h | h <;> rw [h] <;> rfl
  have hgeneration : generation = now.generation := by
    rcases hphase with h | h <;> rcases hnumbered.active hactive with hn | hn <;>
      rw [h] at hn <;> cases hn <;> rfl
  subst hgeneration
  obtain ⟨front, request, hasked, hrequest⟩ := hcurrent.asked hactive
  obtain ⟨hvalid, hcompiled⟩ := nextRequest_eq_ok hrequest
  refine ⟨rfl, hvalid, ⟨request, ?_, ?_⟩, ?_⟩
  · have hid : now.id = id := halike.id.trans (ChartView.build_id id catalog options)
    have hascending := issued_ascending hnumbered
    rw [hasked, hid] at hascending ⊢
    exact filter_concat_eq_singleton PendingQuery.generation hascending
  · rw [← halike.limits]
    exact hcompiled
  · intro hrendered
    obtain ⟨front, response, htaken, hdrawn⟩ := hcurrent.drawn hrendered
    refine ⟨response, ?_, ?_⟩
    · have hascending := hnumbered.taken_ascending
      rw [htaken] at hascending ⊢
      exact filter_concat_eq_singleton Prod.fst hascending
    · unfold ChartView.draw at hdrawn
      rw [halike.displayCap] at hdrawn
      exact hdrawn

/-- A figure is mounted and its query sent; it is edited, the answer to the first query comes too
late, and the second query is answered. -/
def lateAnswer : List ViewCall :=
  [.mount (some { kind := .kpi, valueColumn := some "sales" }), .poll, .edit (.aggregation .max),
    .complete 1 (.ok {}), .poll,
    .complete 2 (.ok { rows := [Ledger.ofList [("sales_max", .int 12)]] })]

/-- After a late answer the figure shows the answer to its second query. -/
theorem shown_is_current_lateAnswer :
    let v := ChartView.build default ⟨[⟨"sales", .float64⟩]⟩ [.publishes]
    (v.after lateAnswer).phase = .rendered 2 ∧ 2 = (v.after lateAnswer).generation ∧
    ∃ response, (taken (v.steps lateAnswer)).filter (fun answer => answer.1 = 2) =
        [(2, .ok response)] ∧
      (v.after lateAnswer).render = some
        (match RenderModel.ofResponse v.displayCap (v.after lateAnswer).spec.kind
            (v.after lateAnswer).spec response with
        | .ok model => model.colorize (v.after lateAnswer).spec.colorsByMean
        | .error e => e.placeholder) := by
  have hphase : ((ChartView.build default ⟨[⟨"sales", .float64⟩]⟩ [.publishes]).after
      lateAnswer).phase = .rendered 2 := by decide +kernel
  obtain ⟨hgeneration, _, _, hdrawn⟩ := shown_is_current default ⟨[⟨"sales", .float64⟩]⟩
    [.publishes] lateAnswer 2 (Or.inr hphase)
  exact ⟨hphase, hgeneration, hdrawn hphase⟩

end Chartboard
