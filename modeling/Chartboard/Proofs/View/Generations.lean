import Chartboard.Proofs.View.History

/-!
# Generations

The queries of a chart view are numbered in the order in which they are sent, and a chart that waits
for an answer, or shows one, is at the number of the last query. So the answers that are taken come
in ascending order of their numbers, each number once. An answer is taken only if nothing has been
changed since its query was sent, and one that is not taken leaves no trace.
-/

namespace Chartboard

namespace ViewStep

variable {step : ViewStep}

/-- A step whose turn ends with a query issues it. -/
theorem issued?_of_done {state : ChartView} {pending : Option PendingQuery}
    (h : step.turn = .done state (.query pending)) : step.issued? = pending := by
  simp only [issued?, h, Turn.done]

/-- A poll takes no answer. -/
theorem taken?_of_poll (h : step.call = .poll) : step.taken? = none := by
  simp only [taken?, h]

/-- A step that is answered by a flag issues no query. -/
theorem issued?_of_flag {flag : Bool} (h : step.turn.answer = .ok (.flag flag)) :
    step.issued? = none := by
  simp only [issued?, h]

/-- A completion that is answered by `true` takes its result. -/
theorem taken?_of_complete {generation : Nat} {result : Except QueryError Response}
    (hcall : step.call = .complete generation result) (h : step.turn.answer = .ok (.flag true)) :
    step.taken? = some (generation, result) := by
  simp only [taken?, hcall, h]

end ViewStep

/-- One more step adds the query that it issues to those of the steps before. -/
theorem issued_concat (steps : List ViewStep) (step : ViewStep) :
    issued (steps ++ [step]) = issued steps ++ step.issued?.toList := by
  cases h : step.issued? <;> simp [issued, h]

/-- One more step adds the answer that it takes to those of the steps before. -/
theorem taken_concat (steps : List ViewStep) (step : ViewStep) :
    taken (steps ++ [step]) = taken steps ++ step.taken?.toList := by
  cases h : step.taken? <;> simp [taken, h]

/-- A step that issues nothing leaves the issued queries as they are. -/
theorem issued_concat_of_none (steps : List ViewStep) {step : ViewStep}
    (h : step.issued? = none) : issued (steps ++ [step]) = issued steps := by
  rw [issued_concat, h]
  exact List.append_nil _

/-- A step that takes nothing leaves the taken answers as they are. -/
theorem taken_concat_of_none (steps : List ViewStep) {step : ViewStep} (h : step.taken? = none) :
    taken (steps ++ [step]) = taken steps := by
  rw [taken_concat, h]
  exact List.append_nil _

/-! ## Numbers -/

/-- The numbers of the queries and answers of a history up to the view that it has led to. -/
structure Numbered (steps : List ViewStep) (now : ChartView) : Prop where
  /-- The queries are numbered from one to the generation. -/
  issued : (issued steps).map (·.generation) = List.range' 1 now.generation
  /-- A chart that waits for an answer, or shows one, is at the last query. -/
  active : now.phase.isActive = true →
    now.phase = .compiling now.generation ∨ now.phase = .rendered now.generation
  /-- Answers are taken in the order of their queries, one at most for each. -/
  taken_ascending : (taken steps).Pairwise fun a b => a.1 < b.1
  /-- No answer is taken before its query is sent. -/
  taken_le : ∀ t ∈ taken steps, t.1 ≤ now.generation
  /-- No answer to the query on its way has been taken. -/
  taken_lt : now.phase = .compiling now.generation → ∀ t ∈ taken steps, t.1 < now.generation

/-- Before the first step nothing is issued and the generation is zero. -/
theorem numbered_start {v : ChartView} (h : v.IsNew) : Numbered [] v where
  issued := by rw [h.generation]; rfl
  active hactive := by rw [h.phase] at hactive; cases hactive
  taken_ascending := .nil
  taken_le _ ht := absurd ht List.not_mem_nil
  taken_lt _ _ ht := absurd ht List.not_mem_nil

/-- The numbers after an answer to the last query has been taken. -/
theorem numbered_take {steps : List ViewStep} {step : ViewStep}
    {result : Except QueryError Response} (h : Numbered steps step.before)
    (phase : step.before.phase = .compiling step.before.generation)
    (issued : step.issued? = none) (taken : step.taken? = some (step.before.generation, result))
    (generation : step.turn.state.generation = step.before.generation)
    (active : step.turn.state.phase.isActive = true →
      step.turn.state.phase = .rendered step.before.generation) :
    Numbered (steps ++ [step]) step.turn.state := by
  have htaken : Chartboard.taken (steps ++ [step]) =
      Chartboard.taken steps ++ [(step.before.generation, result)] := by
    rw [taken_concat, taken]
    rfl
  refine ⟨?_, ?_, ?_, ?_, ?_⟩
  · rw [issued_concat_of_none steps issued, generation]
    exact h.issued
  · intro hactive
    rw [generation]
    exact .inr (active hactive)
  · rw [htaken, List.pairwise_append]
    refine ⟨h.taken_ascending, List.pairwise_singleton _ _, ?_⟩
    intro t ht last hlast
    rw [List.mem_singleton.mp hlast]
    exact h.taken_lt phase t ht
  · intro t ht
    rw [generation]
    rcases List.mem_append.mp (htaken ▸ ht) with ht | ht
    · exact h.taken_le t ht
    · exact Nat.le_of_eq (congrArg Prod.fst (List.mem_singleton.mp ht))
  · intro hcompiling
    have hrendered := active (by rw [hcompiling]; rfl)
    rw [hcompiling] at hrendered
    cases hrendered

/-- A step issues no query or the one with the next number, so the queries stay numbered. -/
theorem numbered_step {steps : List ViewStep} {step : ViewStep} (h : Numbered steps step.before)
    (effect : step.Effect) : Numbered (steps ++ [step]) step.turn.state := by
  cases effect with
  | rest subscribers state issued taken outdates =>
    have hissued := issued_concat_of_none steps issued
    have htaken := taken_concat_of_none steps taken
    rw [state]
    exact ⟨by rw [hissued]; exact h.issued, h.active, by rw [htaken]; exact h.taken_ascending,
      by rw [htaken]; exact h.taken_le, by rw [htaken]; exact h.taken_lt⟩
  | leave phase generation alike issued taken =>
    have hissued := issued_concat_of_none steps issued
    have htaken := taken_concat_of_none steps taken
    refine ⟨?_, ?_, ?_, ?_, ?_⟩
    · rw [hissued, generation]
      exact h.issued
    · intro hactive
      rw [phase] at hactive
      cases hactive
    · rw [htaken]
      exact h.taken_ascending
    · rw [htaken, generation]
      exact h.taken_le
    · intro hcompiling
      rw [hcompiling] at phase
      cases phase
  | issue request call request_eq turn =>
    have htaken := taken_concat_of_none steps (ViewStep.taken?_of_poll call)
    rw [turn]
    refine ⟨?_, fun _ => .inl rfl, ?_, ?_, ?_⟩
    · rw [issued_concat, ViewStep.issued?_of_done turn, List.map_append, h.issued]
      dsimp only [Turn.done]
      rw [List.range'_1_concat, Nat.add_comm 1]
      rfl
    · rw [htaken]
      exact h.taken_ascending
    · intro t ht
      rw [htaken] at ht
      exact Nat.le_succ_of_le (h.taken_le t ht)
    · intro _ t ht
      rw [htaken] at ht
      exact Nat.lt_succ_of_le (h.taken_le t ht)
  | draw response call phase turn =>
    have hanswer : step.turn.answer = .ok (.flag true) := by rw [turn]
    exact numbered_take h phase (ViewStep.issued?_of_flag hanswer)
      (ViewStep.taken?_of_complete call hanswer) (by rw [turn]) (fun _ => by rw [turn])
  | fail error call phase turn =>
    have hanswer : step.turn.answer = .ok (.flag true) := by rw [turn]; rfl
    refine numbered_take h phase (ViewStep.issued?_of_flag hanswer)
      (ViewStep.taken?_of_complete call hanswer) (by rw [turn]; rfl) ?_
    intro hactive
    rw [turn] at hactive
    cases hactive

/-- The numbers of every history of a new view. -/
theorem numbered_history {v : ChartView} (h : v.IsNew) (calls : List ViewCall) :
    Numbered (v.steps calls) (v.after calls) :=
  v.history_induction (numbered_start h)
    (fun _ now call ih => numbered_step ih (now.perform_effect call)) calls

end Chartboard
