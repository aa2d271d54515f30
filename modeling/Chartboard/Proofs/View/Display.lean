import Chartboard.Proofs.View.Broadcasts
import Chartboard.Proofs.View.Freshness

/-!
# What is shown in each phase

The phase of a chart, its generation, its drawing and its message are changed piece by piece, and
still they go together between any two calls: nothing is drawn while a query is on its way, an
error stands in place of a drawing, and a drawing is kept only while it is current or known to be
outdated. Whatever is drawn comes from the answer to the last query that was sent.
-/

namespace Chartboard

/-- What users see of how far a chart has come. -/
structure Display where
  /-- How far the chart has come. -/
  phase : Phase
  /-- The number of the last query that was sent. -/
  generation : Nat
  /-- What is drawn. -/
  render : Option RenderModel
  /-- The error or the hint that is shown. -/
  fault : Option ChartFault

/-- The display of a chart. -/
def ChartView.display (v : ChartView) : Display :=
  ⟨v.phase, v.generation, v.render, v.fault⟩

namespace Display

/-- The other fields go with the phase. -/
def Agrees (d : Display) : Prop :=
  match d.phase with
  | .uninitialized | .ready => d.generation = 0 ∧ d.render = none ∧ d.fault = none
  | .hydrating => False
  | .stale => True
  | .compiling g => g = d.generation ∧ d.render = none ∧ d.fault = none
  | .rendered g => g = d.generation ∧ d.render.isSome ∧ d.fault = none
  | .failed => d.render = none ∧ d.fault.isSome
  | .tornDown => d.render = none

/-- All that a call can do to a display. -/
inductive Move (before : Display) : Display → Prop where
  /-- Nothing changes. -/
  | rest : Move before before
  /-- The chart is mounted. -/
  | mounted (phase : before.phase = .uninitialized) : Move before { before with phase := .ready }
  /-- What is drawn is noted as outdated. -/
  | outdated : Move before { before with phase := .stale }
  /-- A hint tells what is still to be filled in. -/
  | hinted (hint : ChartFault) : Move before { before with phase := .stale, fault := some hint }
  /-- An error takes the place of what is drawn. -/
  | failed (error : ChartFault) :
    Move before { before with phase := .failed, render := none, fault := some error }
  /-- The next query is sent. -/
  | sent : Move before ⟨.compiling (before.generation + 1), before.generation + 1, none, none⟩
  /-- The answer to the query on its way is drawn. -/
  | drawn (phase : before.phase = .compiling before.generation) (model : RenderModel) :
    Move before { before with phase := .rendered before.generation, render := some model }
  /-- The chart is removed. -/
  | removed : Move before { before with phase := .tornDown, render := none }

variable {before after : Display}

/-- Whatever a call does, the fields go together again. -/
theorem agrees_move (h : before.Agrees) (move : before.Move after) : after.Agrees := by
  cases move with
  | rest => exact h
  | mounted phase =>
    unfold Agrees at h
    rw [phase] at h
    exact h
  | outdated => trivial
  | hinted hint => trivial
  | failed error => exact ⟨rfl, rfl⟩
  | sent => exact ⟨rfl, rfl, rfl⟩
  | drawn phase model =>
    unfold Agrees at h
    rw [phase] at h
    exact ⟨rfl, rfl, h.2.2⟩
  | removed => rfl

/-- A chart that neither waits nor shows an answer still shows the drawing that it had, or none. -/
theorem render_of_inactive (move : before.Move after) (h : after.phase.isActive = false) :
    after.render = before.render ∨ after.render = none := by
  cases move with
  | rest => exact .inl rfl
  | mounted phase => exact .inl rfl
  | outdated => exact .inl rfl
  | hinted hint => exact .inl rfl
  | failed error => exact .inr rfl
  | sent => exact .inr rfl
  | drawn phase model => cases h
  | removed => exact .inr rfl

/-- Something is drawn only where it is current or known to be outdated. -/
theorem phase_of_render {d : Display} (h : d.Agrees) {model : RenderModel}
    (hrender : d.render = some model) : d.phase = .rendered d.generation ∨ d.phase = .stale := by
  unfold Agrees at h
  rw [hrender] at h
  cases hphase : d.phase with
  | rendered g =>
    rw [hphase] at h
    exact .inl (by rw [h.1])
  | stale => exact .inr rfl
  | hydrating => rw [hphase] at h; cases h
  | uninitialized => rw [hphase] at h; cases h.2.1
  | ready => rw [hphase] at h; cases h.2.1
  | compiling g => rw [hphase] at h; cases h.2.1
  | failed => rw [hphase] at h; cases h.1
  | tornDown => rw [hphase] at h; cases h

end Display

namespace ChartView

/-! ## Moves of calls -/

/-- Noting a chart as outdated is a move of its display. -/
theorem markStale_move (v : ChartView) : v.display.Move v.markStale.display := by
  unfold markStale
  split
  · exact .outdated
  · exact .outdated
  · exact .outdated
  · exact .outdated
  · exact .rest

/-- A call on a mounted chart moves the display as its turn does, or it is refused. -/
theorem whenLive_move {α : Type} {v : ChartView} {turn : Turn ChartView α}
    (h : v.display.Move turn.state.display) :
    v.display.Move (v.whenLive turn).state.display :=
  whenLive_induction (motive := fun turn => v.display.Move turn.state.display) (fun _ => .rest)
    fun _ => h

/-- Hydrating is a move of the display. -/
theorem hydrate_move (v : ChartView) (persisted : Spec) :
    v.display.Move (v.hydrate persisted).state.display := by
  unfold hydrate
  split
  · exact .rest
  · split
    · exact .rest
    · exact markStale_move { v with hydrated := true, spec := persisted }

/-- Mounting is a move of the display. -/
theorem mount_move (v : ChartView) (persisted : Option Spec) :
    v.display.Move (v.perform (.mount persisted)).state.display := by
  by_cases hphase : v.phase = .uninitialized
  · rw [perform_mount_of_new hphase]
    exact .mounted hphase
  · rw [(perform_mount_of_not_new hphase persisted).1]
    exact .rest

/-- A new specification is a move of the display. -/
theorem replaceSpec_move (v : ChartView) (spec : Spec) :
    v.display.Move (v.replaceSpec spec).state.display := by
  refine whenLive_move ?_
  split
  · exact .rest
  · exact markStale_move { v with spec, hydrated := true }

/-- New filters are a move of the display. -/
theorem setFilters_move (v : ChartView) (filters : FilterSet) :
    v.display.Move (v.setFilters filters).state.display := by
  refine whenLive_move ?_
  split
  · exact .rest
  · exact markStale_move { v with filters }

/-- New columns are a move of the display. -/
theorem setCatalog_move (v : ChartView) (catalog : Catalog) :
    v.display.Move (v.setCatalog catalog).state.display := by
  refine whenLive_move ?_
  split
  · exact .rest
  · exact markStale_move { v with catalog }

/-- A refresh is a move of the display. -/
theorem refresh_move (v : ChartView) : v.display.Move v.refresh.state.display :=
  whenLive_move (markStale_move v)

/-- Handing out a query is a move of the display. -/
theorem poll_move (v : ChartView) : v.display.Move v.poll.state.display := by
  refine whenLive_move ?_
  split
  · split
    · exact .sent
    · split
      · exact .hinted _
      · exact .failed _
  · exact .rest

/-- Taking an answer is a move of the display. -/
theorem complete_move (v : ChartView) (generation : Nat) (result : Except QueryError Response) :
    v.display.Move (v.complete generation result).state.display := by
  refine whenLive_move ?_
  split
  · rename_i hwaits
    obtain ⟨rfl, hphase⟩ := hwaits
    split
    · exact .drawn hphase _
    · exact .failed _
  · exact .rest

/-- Removing a chart is a move of its display. -/
theorem tearDown_move (v : ChartView) : v.display.Move v.tearDown.display := by
  unfold tearDown
  split
  · exact .rest
  · exact .removed

/-- Every call is a move of the display. -/
theorem perform_move (v : ChartView) (call : ViewCall) :
    v.display.Move (v.perform call).state.display := by
  cases call with
  | mount persisted => exact mount_move v persisted
  | hydrate persisted => exact hydrate_move v persisted
  | edit e => exact replaceSpec_move v (v.spec.apply e)
  | replaceSpec spec => exact replaceSpec_move v spec
  | setFilters filters => exact setFilters_move v filters
  | setCatalog catalog => exact setCatalog_move v catalog
  | refresh => exact refresh_move v
  | poll => exact poll_move v
  | complete generation result => exact complete_move v generation result
  | selectPoint value => exact whenLive_move .rest
  | subscribe subscriber => exact .rest
  | unsubscribe subscriber => exact .rest
  | tearDown => exact tearDown_move v

/-- A view that is made begins with an empty display, whatever is chosen for it. -/
theorem display_build (id : Uuid) (catalog : Catalog) (options : List ViewOption) :
    (build id catalog options).display = ⟨.uninitialized, 0, none, none⟩ :=
  build_induction (motive := fun v => v.display = ⟨.uninitialized, 0, none, none⟩) rfl
    (fun v option h => by cases option <;> exact h) options

/-- After any calls the other fields of a display go with its phase. -/
theorem agrees_after (id : Uuid) (catalog : Catalog) (options : List ViewOption)
    (calls : List ViewCall) : ((build id catalog options).after calls).display.Agrees :=
  (build id catalog options).history_induction (motive := fun _ now => now.display.Agrees)
    (by rw [display_build]; exact ⟨rfl, rfl, rfl⟩)
    (fun _ now call ih => Display.agrees_move ih (now.perform_move call)) calls

end ChartView

/-! ## Where a drawing comes from -/

/-- Whatever is drawn was drawn when the answer to the last query was taken. -/
def DrawsLast (steps : List ViewStep) (now : ChartView) : Prop :=
  ∀ model, now.render = some model →
    (∃ front request, issued steps = front ++ [⟨now.id, now.generation, request⟩]) ∧
    ∃ earlier step later response, steps = earlier ++ step :: later ∧
      step.call = .complete now.generation (.ok response) ∧
      step.turn.answer = .ok (.flag true) ∧ step.before.draw response = model ∧
      issued later = [] ∧ taken later = []

/-- A step that sends and takes nothing keeps what is drawn, or wipes it. -/
theorem drawsLast_keep {steps : List ViewStep} {step : ViewStep} (h : DrawsLast steps step.before)
    (render : step.turn.state.render = step.before.render ∨ step.turn.state.render = none)
    (generation : step.turn.state.generation = step.before.generation)
    (id : step.turn.state.id = step.before.id) (issued : step.issued? = none)
    (taken : step.taken? = none) : DrawsLast (steps ++ [step]) step.turn.state := by
  intro model hmodel
  rcases render with render | render
  · rw [render] at hmodel
    obtain ⟨hasked, earlier, drawing, later, response, hsteps, hcall, hanswer, hdrawn, hissued,
      htaken⟩ := h model hmodel
    rw [generation, id, issued_concat_of_none steps issued]
    refine ⟨hasked, earlier, drawing, later ++ [step], response, ?_, hcall, hanswer, hdrawn, ?_, ?_⟩
    · rw [hsteps, List.append_assoc, List.cons_append]
    · rw [issued_concat_of_none later issued, hissued]
    · rw [taken_concat_of_none later taken, htaken]
  · rw [render] at hmodel
    cases hmodel

/-- After one more step, what is drawn is still the last answer that was taken. -/
theorem drawsLast_step {steps : List ViewStep} {step : ViewStep}
    (current : Current steps step.before) (h : DrawsLast steps step.before) (effect : step.Effect)
    (move : step.before.display.Move step.turn.state.display) :
    DrawsLast (steps ++ [step]) step.turn.state := by
  cases effect with
  | rest subscribers state issued taken outdates =>
    exact drawsLast_keep h (.inl (by rw [state])) (by rw [state]) (by rw [state]) issued taken
  | leave phase generation alike issued taken =>
    exact drawsLast_keep h (Display.render_of_inactive move phase) generation alike.id issued taken
  | issue request call request_eq turn =>
    intro model hmodel
    rw [turn] at hmodel
    cases hmodel
  | draw response call phase turn =>
    have hanswer : step.turn.answer = .ok (.flag true) := by rw [turn]
    obtain ⟨front, request, hasked, -⟩ := current.asked (by rw [phase]; rfl)
    intro model hmodel
    refine ⟨⟨front, request, ?_⟩, steps, step, [], response, rfl, ?_, hanswer, ?_, rfl, rfl⟩
    · rw [issued_concat_of_none steps (ViewStep.issued?_of_flag hanswer), hasked, turn]
    · rw [call, turn]
    · rw [turn] at hmodel
      exact Option.some.inj hmodel
  | fail error call phase turn =>
    intro model hmodel
    rw [turn] at hmodel
    cases hmodel

/-- In every history, what is drawn is the answer to the last query. -/
theorem drawsLast_history {v : ChartView} (hnew : v.IsNew) (hrender : v.render = none)
    (calls : List ViewCall) : DrawsLast (v.steps calls) (v.after calls) := by
  have hhistory : Current (v.steps calls) (v.after calls) ∧
      DrawsLast (v.steps calls) (v.after calls) := by
    refine v.history_induction
      (motive := fun steps now => Current steps now ∧ DrawsLast steps now) ?_ ?_ calls
    · refine ⟨current_history hnew [], fun model hmodel => ?_⟩
      rw [hrender] at hmodel
      cases hmodel
    · exact fun _ now call ih => ⟨current_step ih.1 (now.perform_effect call),
        drawsLast_step ih.1 ih.2 (now.perform_effect call) (now.perform_move call)⟩
  exact hhistory.2

/-- In every history of a new view the fields go with the phase. Nobody sees a chart that is being
mounted. Before the first query there are neither queries nor drawings nor messages; a chart that
waits for an answer shows neither drawing nor message, one that shows an answer shows a drawing
without message, one that has failed shows a message without drawing, and a removed one shows no
drawing. Whatever is drawn, be it current or outdated, was drawn when the answer to the last query
was taken: no query has been sent and no other answer taken since. Running a chart leads nowhere
else. -/
theorem fields_agree (id : Uuid) (catalog : Catalog) (options : List ViewOption)
    (calls : List ViewCall) :
    let v := ChartView.build id catalog options
    let now := v.after calls
    let steps := v.steps calls
    now.phase ≠ .hydrating ∧
    (now.phase = .uninitialized ∨ now.phase = .ready →
      now.generation = 0 ∧ now.render = none ∧ now.fault = none) ∧
    (∀ g, now.phase = .compiling g → now.render = none ∧ now.fault = none) ∧
    (∀ g, now.phase = .rendered g → now.render.isSome ∧ now.fault = none) ∧
    (now.phase = .failed → now.fault.isSome ∧ now.render = none) ∧
    (now.phase = .tornDown → now.render = none) ∧
    (∀ model, now.render = some model →
      (now.phase = .rendered now.generation ∨ now.phase = .stale) ∧
      (∃ front request, issued steps = front ++ [⟨id, now.generation, request⟩]) ∧
      ∃ earlier step later response, steps = earlier ++ step :: later ∧
        step.call = .complete now.generation (.ok response) ∧
        step.turn.answer = .ok (.flag true) ∧ step.before.draw response = model ∧
        issued later = [] ∧ taken later = []) ∧
    ∀ {ε : Type} (execute : Executor ε) (env : ε),
      ∃ more, (now.run execute env).1.state = now.after more := by
  intro v now steps
  have hagrees : now.display.Agrees := ChartView.agrees_after id catalog options calls
  have hdraws : DrawsLast steps now := drawsLast_history (ChartView.build_isNew id catalog options)
    (congrArg Display.render (ChartView.display_build id catalog options)) calls
  have hid : now.id = id := (v.after_alike calls).id.trans (ChartView.build_id id catalog options)
  have hphase : ∀ model, now.render = some model →
      now.phase = .rendered now.generation ∨ now.phase = .stale :=
    fun model hmodel => Display.phase_of_render hagrees hmodel
  unfold Display.Agrees ChartView.display at hagrees
  dsimp only at hagrees
  refine ⟨?_, ?_, ?_, ?_, ?_, ?_, ?_, ?_⟩
  · intro h
    rw [h] at hagrees
    exact hagrees
  · rintro (h | h)
    · rw [h] at hagrees
      exact hagrees
    · rw [h] at hagrees
      exact hagrees
  · intro g h
    rw [h] at hagrees
    exact hagrees.2
  · intro g h
    rw [h] at hagrees
    exact hagrees.2
  · intro h
    rw [h] at hagrees
    exact hagrees.symm
  · intro h
    rw [h] at hagrees
    exact hagrees
  · intro model hmodel
    obtain ⟨hasked, hdrawn⟩ := hdraws model hmodel
    rw [hid] at hasked
    exact ⟨hphase model hmodel, hasked, hdrawn⟩
  · exact fun execute env => now.run_eq_after execute env

end Chartboard
