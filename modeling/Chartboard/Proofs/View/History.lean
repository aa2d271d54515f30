import Chartboard.View.Lifecycle
import Mathlib.Data.List.Induction

/-!
# Histories of a chart view

A history is a sequence of calls on a chart view, whatever they are and in whatever order they come.
Every step of it keeps the view before the call, the call, and the turn that it was. The one
statement about a step says all that a call can do: it changes nothing that is shown, it leaves the
chart without a query and without an answer, it sends a query, or it takes the answer to the last
one. What holds of all histories is derived from it.
-/

namespace Chartboard

open Json (Value)

/-! ## Turns -/

namespace Turn

variable {σ τ α β : Type}

/-- After a turn that is done comes the next one, from the state that it leaves. -/
theorem andThen_of_ok {turn : Turn σ α} {value : α} (next : σ → α → Turn σ β)
    (h : turn.answer = .ok value) :
    (turn.andThen next).state = (next turn.state value).state ∧
      (turn.andThen next).answer = (next turn.state value).answer := by
  simp only [andThen, h, and_self]

/-- Nothing comes after a turn that is refused. -/
theorem andThen_of_error {turn : Turn σ α} {refusal : Refusal} (next : σ → α → Turn σ β)
    (h : turn.answer = .error refusal) :
    (turn.andThen next).state = turn.state ∧ (turn.andThen next).answer = .error refusal := by
  simp only [andThen, h, and_self]

/-- A second call that does nothing but answer changes the answer only. -/
theorem andThen_done (turn : Turn σ α) (reply : α → β) :
    (turn.andThen fun state value => .done state (reply value)).state = turn.state ∧
      (turn.andThen fun state value => .done state (reply value)).answer =
        turn.answer.map reply := by
  cases h : turn.answer with
  | ok value => exact andThen_of_ok (fun state value => .done state (reply value)) h
  | error refusal => exact andThen_of_error (fun state value => .done state (reply value)) h

end Turn

/-! ## New views -/

/-- Something that is chosen when a view is made. -/
inductive ViewOption where
  /-- The limits that queries carry. -/
  | limits (limits : QueryLimits)
  /-- The number of rows that a table shows. -/
  | displayCap (cap : Nat)
  /-- Events are published. -/
  | publishes
  /-- The filters that queries carry at first. -/
  | filters (filters : FilterSet)

namespace ChartView

/-- The view with one more choice made. -/
def choose (v : ChartView) : ViewOption → ChartView
  | .limits limits => { v with limits }
  | .displayCap displayCap => { v with displayCap }
  | .publishes => { v with publishes := true }
  | .filters filters => { v with filters }

/-- A view that is made with some choices, from the first to the last. -/
def build (id : Uuid) (catalog : Catalog) (options : List ViewOption) : ChartView :=
  options.foldl choose { id, catalog }

/-- The view has not been called yet. -/
structure IsNew (v : ChartView) : Prop where
  /-- It is not mounted. -/
  phase : v.phase = .uninitialized
  /-- No query has been sent. -/
  generation : v.generation = 0

/-- A choice leaves a new view new. -/
theorem choose_isNew {v : ChartView} (h : v.IsNew) (option : ViewOption) :
    (v.choose option).IsNew := by
  cases option <;> exact ⟨h.phase, h.generation⟩

/-- What holds before any choice is made and is kept by every choice holds of the view. -/
theorem build_induction {motive : ChartView → Prop} {id : Uuid} {catalog : Catalog}
    (start : motive { id, catalog }) (next : ∀ v option, motive v → motive (v.choose option))
    (options : List ViewOption) : motive (build id catalog options) := by
  induction options using List.reverseRecOn with
  | nil => exact start
  | append_singleton options option ih =>
    rw [build, List.foldl_append]
    exact next _ option ih

/-- A view that is made is new. -/
theorem build_isNew (id : Uuid) (catalog : Catalog) (options : List ViewOption) :
    (build id catalog options).IsNew :=
  build_induction (motive := IsNew) ⟨rfl, rfl⟩ (fun _ option h => choose_isNew h option) options

/-- A view is made with its identifier, whatever is chosen. -/
theorem build_id (id : Uuid) (catalog : Catalog) (options : List ViewOption) :
    (build id catalog options).id = id :=
  build_induction (motive := fun v => v.id = id) rfl
    (fun v option h => by cases option <;> exact h) options

end ChartView

/-! ## Calls and steps -/

/-- A call on a chart view. -/
inductive ViewCall where
  /-- Mounts the chart. -/
  | mount (persisted : Option Spec)
  /-- Takes over a kept specification. -/
  | hydrate (persisted : Spec)
  /-- Makes one edit. -/
  | edit (e : SpecEdit)
  /-- Makes a specification the one of the chart. -/
  | replaceSpec (spec : Spec)
  /-- Replaces the filters. -/
  | setFilters (filters : FilterSet)
  /-- Replaces the columns. -/
  | setCatalog (catalog : Catalog)
  /-- Asks for a new query. -/
  | refresh
  /-- Hands out the next query. -/
  | poll
  /-- Brings an answer, whoever made it up. -/
  | complete (generation : Nat) (result : Except QueryError Response)
  /-- Selects a point. -/
  | selectPoint (value : Value)
  /-- Registers a subscriber. -/
  | subscribe (subscriber : String)
  /-- Lets a subscriber go. -/
  | unsubscribe (subscriber : String)
  /-- Removes the chart. -/
  | tearDown

/-- What a call answers that is not refused. -/
inductive Reply where
  /-- Nothing but that it is done. -/
  | nothing
  /-- Whether something has changed or was taken. -/
  | flag (b : Bool)
  /-- The query to be sent, if there is one. -/
  | query (pending : Option PendingQuery)
  /-- The change of the filters that is asked for, if there is one. -/
  | selection (delta : Option FilterDelta)

/-- The same turn with another form of its answer. -/
def Turn.replying {σ α : Type} (turn : Turn σ α) (reply : α → Reply) : Turn σ Reply :=
  { state := turn.state, answer := turn.answer.map reply, notices := turn.notices }

namespace ChartView

/-- The turn of a call. -/
def perform (v : ChartView) : ViewCall → Turn ChartView Reply
  | .mount persisted => (v.mount persisted).replying fun _ => .nothing
  | .hydrate persisted => (v.hydrate persisted).replying .flag
  | .edit e => (v.edit e).replying .flag
  | .replaceSpec spec => (v.replaceSpec spec).replying .flag
  | .setFilters filters => (v.setFilters filters).replying .flag
  | .setCatalog catalog => (v.setCatalog catalog).replying .flag
  | .refresh => v.refresh.replying fun _ => .nothing
  | .poll => v.poll.replying .query
  | .complete generation result => (v.complete generation result).replying .flag
  | .selectPoint value => (v.selectPoint value).replying .selection
  | .subscribe subscriber => .done (v.subscribe subscriber) .nothing
  | .unsubscribe subscriber => .done (v.unsubscribe subscriber) .nothing
  | .tearDown => .done v.tearDown .nothing

/-- What some calls leave, made one after the other. -/
def after (v : ChartView) (calls : List ViewCall) : ChartView :=
  calls.foldl (fun v call => (v.perform call).state) v

end ChartView

/-- One call of a history. -/
structure ViewStep where
  /-- The view that is called. -/
  before : ChartView
  /-- The call. -/
  call : ViewCall
  /-- What comes of it. -/
  turn : Turn ChartView Reply

/-- The steps of some calls, made one after the other. -/
def ChartView.steps (v : ChartView) : List ViewCall → List ViewStep
  | [] => []
  | call :: rest => ⟨v, call, v.perform call⟩ :: (v.perform call).state.steps rest

namespace ViewStep

/-- The query that the step hands out. -/
def issued? (step : ViewStep) : Option PendingQuery :=
  match step.turn.answer with
  | .ok (.query pending) => pending
  | _ => none

/-- The answer that the step takes: the generation and the result that were brought. -/
def taken? (step : ViewStep) : Option (Nat × Except QueryError Response) :=
  match step.call, step.turn.answer with
  | .complete generation result, .ok (.flag true) => some (generation, result)
  | _, _ => none

/-- The step changes the specification, the filters or the columns, or asks for a new query. -/
def outdates (step : ViewStep) : Bool :=
  match step.call, step.turn.answer with
  | .hydrate _, .ok (.flag changed) => changed
  | .edit _, .ok (.flag changed) => changed
  | .replaceSpec _, .ok (.flag changed) => changed
  | .setFilters _, .ok (.flag changed) => changed
  | .setCatalog _, .ok (.flag changed) => changed
  | .refresh, .ok _ => true
  | _, _ => false

end ViewStep

/-- The queries that some steps hand out, in order. -/
def issued (steps : List ViewStep) : List PendingQuery :=
  steps.filterMap ViewStep.issued?

/-- The answers that some steps take, in order. -/
def taken (steps : List ViewStep) : List (Nat × Except QueryError Response) :=
  steps.filterMap ViewStep.taken?

namespace ChartView

/-- The steps of later calls begin where the earlier ones have ended. -/
theorem steps_append (v : ChartView) (calls later : List ViewCall) :
    v.steps (calls ++ later) = v.steps calls ++ (v.after calls).steps later := by
  induction calls generalizing v with
  | nil => rfl
  | cons call rest ih =>
    rw [List.cons_append, steps, steps, List.cons_append, ih]
    rfl

/-- Later calls are made on what the earlier ones leave. -/
theorem after_append (v : ChartView) (calls later : List ViewCall) :
    v.after (calls ++ later) = (v.after calls).after later :=
  List.foldl_append

/-- Every step of a history begins where the calls in front of it have led. -/
theorem steps_eq_append_cons {v : ChartView} {calls : List ViewCall} {earlier later : List ViewStep}
    {step : ViewStep} (h : v.steps calls = earlier ++ step :: later) :
    ∃ front, earlier = v.steps front ∧ step.before = v.after front ∧
      step.turn = step.before.perform step.call := by
  induction calls generalizing v earlier with
  | nil => simp [steps] at h
  | cons call rest ih =>
    rw [steps] at h
    cases earlier with
    | nil =>
      obtain ⟨hstep, _⟩ := List.cons.inj h
      exact ⟨[], rfl, by rw [← hstep]; rfl, by rw [← hstep]⟩
    | cons first earlier =>
      obtain ⟨hfirst, hrest⟩ := List.cons.inj h
      obtain ⟨front, hearlier, hbefore, hturn⟩ := ih hrest
      exact ⟨call :: front, by rw [steps, ← hearlier, ← hfirst], hbefore, hturn⟩

/-- What holds at first and is kept by every step holds of the whole history. -/
theorem history_induction {motive : List ViewStep → ChartView → Prop} (v : ChartView)
    (start : motive [] v)
    (next : ∀ steps now call, motive steps now →
      motive (steps ++ [⟨now, call, now.perform call⟩]) (now.perform call).state)
    (calls : List ViewCall) : motive (v.steps calls) (v.after calls) := by
  induction calls using List.reverseRecOn with
  | nil => exact start
  | append_singleton calls call ih =>
    rw [steps_append, after_append]
    exact next _ _ call ih

end ChartView

/-! ## Runs -/

namespace ChartView

/-- Running a chart polls it and brings it an answer if it hands out a query. -/
theorem run_cases {ε : Type} (v : ChartView) (execute : Executor ε) (env : ε) :
    (v.run execute env).1.state = v.poll.state ∨
      ∃ generation result,
        (v.run execute env).1.state = (v.poll.state.complete generation result).state := by
  have hdone := (Turn.andThen_done v.poll fun _ => false).1
  cases hanswer : v.poll.answer with
  | error refusal => exact .inl (by simpa only [ChartView.run, hanswer] using hdone)
  | ok pending? =>
    cases pending? with
    | none => exact .inl (by simpa only [ChartView.run, hanswer] using hdone)
    | some pending =>
      refine .inr ⟨pending.generation, (execute pending.request env).1, ?_⟩
      simp only [ChartView.run, hanswer]
      exact (Turn.andThen_of_ok _ hanswer).1

/-- Running a chart leads where calls lead. -/
theorem run_eq_after {ε : Type} (v : ChartView) (execute : Executor ε) (env : ε) :
    ∃ calls, (v.run execute env).1.state = v.after calls := by
  rcases v.run_cases execute env with hstate | ⟨generation, result, hstate⟩
  · exact ⟨[.poll], hstate⟩
  · exact ⟨[.poll, .complete generation result], hstate⟩

end ChartView

/-! ## What a step can do -/

/-- The chart waits for an answer, or shows one. -/
def Phase.isActive : Phase → Bool
  | .compiling _ | .rendered _ => true
  | _ => false

/-- Two views have the same identifier and were made with the same choices. -/
structure ChartView.Alike (w v : ChartView) : Prop where
  /-- The identifier is the same. -/
  id : w.id = v.id
  /-- The limits are the same. -/
  limits : w.limits = v.limits
  /-- The display cap is the same. -/
  displayCap : w.displayCap = v.displayCap
  /-- Both publish events, or none of them. -/
  publishes : w.publishes = v.publishes

/-- Being made with the same choices is transitive. -/
theorem ChartView.Alike.trans {u v w : ChartView} (huv : u.Alike v) (hvw : v.Alike w) :
    u.Alike w :=
  ⟨huv.id.trans hvw.id, huv.limits.trans hvw.limits, huv.displayCap.trans hvw.displayCap,
    huv.publishes.trans hvw.publishes⟩

/-- All that a call can do. -/
inductive ViewStep.Effect (step : ViewStep) : Prop where
  /-- Nothing changes but who follows the specification. -/
  | rest (subscribers : Subscribers) (state : step.turn.state = { step.before with subscribers })
      (issued : step.issued? = none) (taken : step.taken? = none) (outdates : step.outdates = false)
  /-- The chart no longer waits for an answer, and shows none. -/
  | leave (phase : step.turn.state.phase.isActive = false)
      (generation : step.turn.state.generation = step.before.generation)
      (alike : step.turn.state.Alike step.before) (issued : step.issued? = none)
      (taken : step.taken? = none)
  /-- The next query is sent. -/
  | issue (request : Request) (call : step.call = .poll)
      (request_eq : step.before.nextRequest = .ok request)
      (turn : step.turn = .done
        { step.before with
          phase := .compiling (step.before.generation + 1)
          generation := step.before.generation + 1
          render := none
          fault := none }
        (.query (some ⟨step.before.id, step.before.generation + 1, request⟩)))
  /-- The response to the last query is drawn. -/
  | draw (response : Response) (call : step.call = .complete step.before.generation (.ok response))
      (phase : step.before.phase = .compiling step.before.generation)
      (turn : step.turn =
        { state := { step.before with
            phase := .rendered step.before.generation
            render := some (step.before.draw response) }
          answer := .ok (.flag true)
          notices := step.before.publish (.chartRendered step.before.id step.before.generation
            step.before.spec.kind (step.before.draw response).isEmpty) })
  /-- The last query has failed. -/
  | fail (error : QueryError) (call : step.call = .complete step.before.generation (.error error))
      (phase : step.before.phase = .compiling step.before.generation)
      (turn : step.turn = step.before.fail (.ofQuery error) (.flag true))

namespace ChartView

/-- A chart that is outdated is not active. -/
theorem markStale_phase (v : ChartView) : v.markStale.phase.isActive = false := by
  rw [markStale]
  split
  · rfl
  · rfl
  · rfl
  · rfl
  · next hready hcompiling hrendered hfailed =>
    cases hp : v.phase with
    | compiling g => exact absurd hp (hcompiling g)
    | rendered g => exact absurd hp (hrendered g)
    | _ => rfl

/-- Everything but the phase stays when something is noted as changed. -/
theorem markStale_eq (v : ChartView) : v.markStale = { v with phase := v.markStale.phase } := by
  unfold markStale
  split <;> rfl

/-- On a chart that can be called, a call takes its turn. -/
theorem whenLive_of_live {α : Type} {v : ChartView} (h : v.refusal? = none)
    (turn : Turn ChartView α) : v.whenLive turn = turn := by
  simp only [whenLive, h]

/-- On a chart that refuses, a call is refused. -/
theorem whenLive_of_refusal {α : Type} {v : ChartView} {refusal : Refusal}
    (h : v.refusal? = some refusal) (turn : Turn ChartView α) :
    v.whenLive turn = .refused v refusal := by
  simp only [whenLive, h]

/-- A call on a view either is the turn that a mounted chart makes of it, or it is refused. -/
theorem whenLive_cases {α : Type} (v : ChartView) (turn : Turn ChartView α) :
    v.whenLive turn = turn ∨ ∃ refusal, v.whenLive turn = .refused v refusal := by
  unfold whenLive
  cases v.refusal? with
  | none => exact .inl rfl
  | some refusal => exact .inr ⟨refusal, rfl⟩

/-- A step whose turn leaves the view as it is, hands out nothing and answers nothing that tells of
a change. -/
theorem effect_of_refused {step : ViewStep} (refusal : Refusal)
    (h : step.turn = .refused step.before refusal) : step.Effect := by
  refine .rest step.before.subscribers ?_ ?_ ?_ ?_
  · rw [h]
    rfl
  · simp only [ViewStep.issued?, h, Turn.refused]
  · simp only [ViewStep.taken?, h, Turn.refused]
    cases step.call <;> rfl
  · simp only [ViewStep.outdates, h, Turn.refused]
    cases step.call <;> rfl

/-- A changed view that is noted as outdated. -/
theorem effect_of_markStale {step : ViewStep} {changed : ChartView}
    (state : step.turn.state = changed.markStale)
    (generation : changed.generation = step.before.generation) (alike : changed.Alike step.before)
    (issued : step.issued? = none) (taken : step.taken? = none) : step.Effect := by
  refine .leave ?_ ?_ ?_ issued taken
  · rw [state]
    exact changed.markStale_phase
  · rw [state, markStale_eq]
    exact generation
  · rw [state, markStale_eq]
    exact ⟨alike.id, alike.limits, alike.displayCap, alike.publishes⟩

/-- Mounting does what a step can do. -/
theorem mount_effect (v : ChartView) (persisted : Option Spec) :
    (⟨v, .mount persisted, v.perform (.mount persisted)⟩ : ViewStep).Effect := by
  have htaken : (⟨v, .mount persisted, v.perform (.mount persisted)⟩ : ViewStep).taken? =
      none := rfl
  cases hp : v.phase with
  | tornDown =>
    exact effect_of_refused (.tornDown v.id)
      (by simp only [perform, mount, hp]; rfl)
  | uninitialized =>
    have hturn : ∃ hydrated spec, v.perform (.mount persisted) =
        .done { v with phase := .ready, hydrated, spec } .nothing := by
      cases persisted with
      | none => exact ⟨v.hydrated, v.spec, by simp only [perform, mount, hp]; rfl⟩
      | some spec =>
        cases hh : v.hydrated with
        | true =>
          refine ⟨v.hydrated, v.spec, ?_⟩
          simp [perform, mount, hp, hydrate, hh, Turn.andThen, Turn.done, Turn.replying, Except.map]
        | false =>
          refine ⟨true, spec, ?_⟩
          simp [perform, mount, hp, hydrate, hh, markStale, Turn.andThen, Turn.done, Turn.replying,
            Except.map]
    obtain ⟨hydrated, spec, hturn⟩ := hturn
    refine .leave ?_ ?_ ?_ ?_ htaken
    · rw [hturn]
      rfl
    · rw [hturn]
      rfl
    · rw [hturn]
      exact ⟨rfl, rfl, rfl, rfl⟩
    · simp only [ViewStep.issued?, hturn, Turn.done]
  | _ =>
    have hturn : v.perform (.mount persisted) = .done v .nothing := by
      simp only [perform, mount, hp]
      rfl
    exact .rest v.subscribers (by rw [hturn]; rfl)
      (by simp only [ViewStep.issued?, hturn, Turn.done]) htaken rfl

/-- A call that may change something is refused, changes nothing, or leaves a changed view that is
noted as outdated. -/
def MayChange (v : ChartView) (turn : Turn ChartView Bool) : Prop :=
  (∃ refusal, turn = .refused v refusal) ∨ turn = .done v false ∨
    ∃ changed : ChartView, turn.state = changed.markStale ∧
      changed.generation = v.generation ∧ changed.Alike v

/-- A call that changes something on a mounted chart only. -/
theorem mayChange_whenLive {v : ChartView} {turn : Turn ChartView Bool} (h : v.MayChange turn) :
    v.MayChange (v.whenLive turn) := by
  rcases whenLive_cases v turn with hlive | ⟨refusal, hrefused⟩
  · rw [hlive]
    exact h
  · exact .inl ⟨refusal, hrefused⟩

/-- Hydrating is refused, changes nothing, or outdates the chart. -/
theorem hydrate_mayChange (v : ChartView) (persisted : Spec) :
    v.MayChange (v.hydrate persisted) := by
  unfold hydrate
  split
  · exact .inl ⟨_, rfl⟩
  · split
    · exact .inr (.inl rfl)
    · exact .inr (.inr
        ⟨{ v with hydrated := true, spec := persisted }, rfl, rfl, rfl, rfl, rfl, rfl⟩)

/-- A new specification is refused, changes nothing, or outdates the chart. -/
theorem replaceSpec_mayChange (v : ChartView) (spec : Spec) : v.MayChange (v.replaceSpec spec) := by
  refine mayChange_whenLive ?_
  split
  · exact .inr (.inl rfl)
  · exact .inr (.inr ⟨{ v with spec, hydrated := true }, rfl, rfl, rfl, rfl, rfl, rfl⟩)

/-- New filters are refused, change nothing, or outdate the chart. -/
theorem setFilters_mayChange (v : ChartView) (filters : FilterSet) :
    v.MayChange (v.setFilters filters) := by
  refine mayChange_whenLive ?_
  split
  · exact .inr (.inl rfl)
  · exact .inr (.inr ⟨{ v with filters }, rfl, rfl, rfl, rfl, rfl, rfl⟩)

/-- New columns are refused, change nothing, or outdate the chart. -/
theorem setCatalog_mayChange (v : ChartView) (catalog : Catalog) :
    v.MayChange (v.setCatalog catalog) := by
  refine mayChange_whenLive ?_
  split
  · exact .inr (.inl rfl)
  · exact .inr (.inr ⟨{ v with catalog }, rfl, rfl, rfl, rfl, rfl, rfl⟩)

/-- The step of a call that may change something and answers whether it has. -/
theorem effect_of_mayChange {step : ViewStep} {turn : Turn ChartView Bool}
    (eq : step.turn = turn.replying .flag) (complete : ∀ g r, step.call ≠ .complete g r)
    (refresh : step.call ≠ .refresh) (h : step.before.MayChange turn) : step.Effect := by
  have hissued : step.issued? = none := by
    rw [ViewStep.issued?, eq, Turn.replying]
    cases turn.answer <;> rfl
  have htaken : step.taken? = none := by
    rw [ViewStep.taken?]
    split
    · next generation result hcall _ => exact absurd hcall (complete generation result)
    · rfl
  rcases h with ⟨refusal, h⟩ | h | ⟨changed, state, generation, alike⟩
  · exact effect_of_refused refusal (by rw [eq, h]; rfl)
  · refine .rest step.before.subscribers (by rw [eq, h]; rfl) hissued htaken ?_
    rw [ViewStep.outdates, eq, h]
    cases hc : step.call with
    | refresh => exact absurd hc refresh
    | _ => rfl
  · exact effect_of_markStale (by rw [eq]; exact state) generation alike hissued htaken

/-- A refresh does what a step can do. -/
theorem refresh_effect (v : ChartView) :
    (⟨v, .refresh, v.perform .refresh⟩ : ViewStep).Effect := by
  rcases whenLive_cases v (.done v.markStale ()) with h | ⟨refusal, h⟩
  · have hturn : v.perform .refresh = .done v.markStale .nothing := by
      rw [perform, ChartView.refresh, h]
      rfl
    exact effect_of_markStale (by rw [hturn]; rfl) rfl ⟨rfl, rfl, rfl, rfl⟩
      (by simp only [ViewStep.issued?, hturn, Turn.done]) rfl
  · exact effect_of_refused refusal (by rw [perform, ChartView.refresh, h]; rfl)

/-- Handing out a query does what a step can do. -/
theorem poll_effect (v : ChartView) : (⟨v, .poll, v.perform .poll⟩ : ViewStep).Effect := by
  cases hrefusal : v.refusal? with
  | some refusal =>
    refine effect_of_refused refusal ?_
    rw [perform, ChartView.poll, whenLive, hrefusal]
    rfl
  | none =>
    cases hawaits : v.awaitsQuery with
    | false =>
      have hturn : v.perform .poll = .done v (.query none) := by
        rw [perform, ChartView.poll, whenLive, hrefusal, hawaits]
        rfl
      exact .rest v.subscribers (by rw [hturn]; rfl)
        (by simp only [ViewStep.issued?, hturn, Turn.done]) rfl rfl
    | true =>
      cases hrequest : v.nextRequest with
      | ok request =>
        refine .issue request rfl hrequest ?_
        rw [perform, ChartView.poll, whenLive, hrefusal, hawaits, hrequest]
        rfl
      | error e =>
        have hturn : v.perform .poll =
            (if e.isIncomplete then
              .done { v with phase := .stale, fault := some (.ofValidation e) } none
            else v.fail (.ofValidation e) none).replying Reply.query := by
          rw [perform, ChartView.poll, whenLive, hrefusal, hawaits, hrequest]
          rfl
        cases hincomplete : e.isIncomplete with
        | true =>
          rw [hincomplete] at hturn
          exact .leave (by rw [hturn]; rfl) (by rw [hturn]; rfl)
            (by rw [hturn]; exact ⟨rfl, rfl, rfl, rfl⟩) (by rw [ViewStep.issued?, hturn]; rfl) rfl
        | false =>
          rw [hincomplete] at hturn
          exact .leave (by rw [hturn]; rfl) (by rw [hturn]; rfl)
            (by rw [hturn]; exact ⟨rfl, rfl, rfl, rfl⟩) (by rw [ViewStep.issued?, hturn]; rfl) rfl

/-- Taking an answer does what a step can do. -/
theorem complete_effect (v : ChartView) (generation : Nat) (result : Except QueryError Response) :
    (⟨v, .complete generation result,
      v.perform (.complete generation result)⟩ : ViewStep).Effect := by
  cases hrefusal : v.refusal? with
  | some refusal =>
    refine effect_of_refused refusal ?_
    simp only [perform, complete, whenLive, hrefusal]
    rfl
  | none =>
    by_cases hwaits : generation = v.generation ∧ v.phase = .compiling generation
    · obtain ⟨rfl, hphase⟩ := hwaits
      cases result with
      | ok response =>
        refine .draw response rfl hphase ?_
        simp only [perform, complete, whenLive, hrefusal, hphase, and_self, if_true]
        rfl
      | error e =>
        refine .fail e rfl hphase ?_
        simp only [perform, complete, whenLive, hrefusal, hphase, and_self, if_true]
        rfl
    · have hturn : v.perform (.complete generation result) = .done v (.flag false) := by
        simp only [perform, complete, whenLive, hrefusal, if_neg hwaits]
        rfl
      exact .rest v.subscribers (by rw [hturn]; rfl)
        (by simp only [ViewStep.issued?, hturn, Turn.done])
        (by simp only [ViewStep.taken?, hturn, Turn.done]) rfl

/-- Selecting a point does what a step can do. -/
theorem selectPoint_effect (v : ChartView) (value : Value) :
    (⟨v, .selectPoint value, v.perform (.selectPoint value)⟩ : ViewStep).Effect := by
  cases hrefusal : v.refusal? with
  | some refusal =>
    refine effect_of_refused refusal ?_
    rw [perform, selectPoint, whenLive, hrefusal]
    rfl
  | none =>
    have hstate : (v.perform (.selectPoint value)).state = v := by
      rw [perform, selectPoint, whenLive, hrefusal]
      rfl
    have hanswer : (v.perform (.selectPoint value)).answer =
        .ok (.selection (v.spec.selection? value)) := by
      rw [perform, selectPoint, whenLive, hrefusal]
      rfl
    exact .rest v.subscribers (by rw [hstate]) (by simp only [ViewStep.issued?, hanswer]) rfl rfl

/-- Removing a chart does what a step can do. -/
theorem tearDown_effect (v : ChartView) :
    (⟨v, .tearDown, v.perform .tearDown⟩ : ViewStep).Effect := by
  have hstate : (v.perform .tearDown).state = v.tearDown := rfl
  by_cases hphase : v.phase = .tornDown
  · have hkept : v.tearDown = v := by rw [tearDown, if_pos hphase]
    exact .leave (by rw [hstate, hkept, hphase]; rfl) (by rw [hstate, hkept])
      (by rw [hstate, hkept]; exact ⟨rfl, rfl, rfl, rfl⟩) rfl rfl
  · have hleft : v.tearDown =
        { v with phase := .tornDown, render := none, subscribers := v.subscribers.clear } := by
      rw [tearDown, if_neg hphase]
    exact .leave (by rw [hstate, hleft]; rfl) (by rw [hstate, hleft])
      (by rw [hstate, hleft]; exact ⟨rfl, rfl, rfl, rfl⟩) rfl rfl

/-- Every call has one of the effects. -/
theorem perform_effect (v : ChartView) (call : ViewCall) :
    (⟨v, call, v.perform call⟩ : ViewStep).Effect := by
  cases call with
  | mount persisted => exact mount_effect v persisted
  | hydrate persisted => exact effect_of_mayChange rfl nofun nofun (hydrate_mayChange v persisted)
  | edit e => exact effect_of_mayChange rfl nofun nofun (replaceSpec_mayChange v (v.spec.apply e))
  | replaceSpec spec => exact effect_of_mayChange rfl nofun nofun (replaceSpec_mayChange v spec)
  | setFilters filters => exact effect_of_mayChange rfl nofun nofun (setFilters_mayChange v filters)
  | setCatalog catalog => exact effect_of_mayChange rfl nofun nofun (setCatalog_mayChange v catalog)
  | refresh => exact refresh_effect v
  | poll => exact poll_effect v
  | complete generation result => exact complete_effect v generation result
  | selectPoint value => exact selectPoint_effect v value
  | subscribe subscriber => exact .rest (v.subscribers.add subscriber) rfl rfl rfl rfl
  | unsubscribe subscriber => exact .rest (v.subscribers.drop subscriber) rfl rfl rfl rfl
  | tearDown => exact tearDown_effect v

/-- No call touches what the chart was made with. -/
theorem alike_step {step : ViewStep} (effect : step.Effect) :
    step.turn.state.Alike step.before := by
  cases effect with
  | rest subscribers state issued taken outdates =>
    rw [state]
    exact ⟨rfl, rfl, rfl, rfl⟩
  | leave phase generation alike issued taken => exact alike
  | issue request call request_eq turn =>
    rw [turn]
    exact ⟨rfl, rfl, rfl, rfl⟩
  | draw response call phase turn =>
    rw [turn]
    exact ⟨rfl, rfl, rfl, rfl⟩
  | fail error call phase turn =>
    rw [turn]
    exact ⟨rfl, rfl, rfl, rfl⟩

/-- After any calls a view has the identifier and the choices that it was made with. -/
theorem after_alike (v : ChartView) (calls : List ViewCall) : (v.after calls).Alike v :=
  v.history_induction (motive := fun _ now => now.Alike v) ⟨rfl, rfl, rfl, rfl⟩
    (fun _ now call ih => (alike_step (now.perform_effect call)).trans ih) calls

end ChartView

end Chartboard
