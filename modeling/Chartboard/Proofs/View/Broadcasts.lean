import Chartboard.Proofs.View.Specification

/-!
# Announced specifications

A kept specification takes its place silently, and only before any edit. An edit that changes the
specification is told to everybody who follows the chart, and one event is published. Nothing else
tells of a specification, so the one that was announced last is the one that the chart has.
-/

namespace Chartboard

open Json (Value)

/-! ## What a step tells -/

/-- The chart and the specification that an event announces. -/
def Notice.announced? : Notice → Option (Uuid × Spec)
  | .published (.specChanged chart spec) => some (chart, spec)
  | _ => none

/-- Somebody is told of a specification. -/
def Notice.tellsSpec : Notice → Bool
  | .told _ => true
  | .published event => event.kind == .specChanged

/-- The specifications that some steps announce, in order, with the chart that announces them. -/
def announced (steps : List ViewStep) : List (Uuid × Spec) :=
  steps.flatMap fun step => step.turn.notices.filterMap Notice.announced?

/-- Who follows a chart after a call, once for each registration. -/
def ViewCall.refollow (call : ViewCall) (names : List String) : List String :=
  match call with
  | .subscribe name => names ++ [name]
  | .unsubscribe name => names.filter fun other => other ≠ name
  | _ => names

/-- Who follows a chart after some calls, in the order of the registrations. -/
def followers (calls : List ViewCall) : List String :=
  calls.foldl (fun names call => call.refollow names) []

namespace ViewStep

/-- The step answers that something has changed. -/
def changes (step : ViewStep) : Bool :=
  match step.turn.answer with
  | .ok (.flag changed) => changed
  | _ => false

/-- The step is an edit that changes the specification. -/
def edits (step : ViewStep) : Bool :=
  match step.call with
  | .edit _ => step.changes
  | .replaceSpec _ => step.changes
  | _ => false

/-- The step takes over a kept specification: it answers so, or mounting the chart without the
specification would have left another chart. -/
def TakesOver (step : ViewStep) (persisted : Spec) : Prop :=
  match step.call with
  | .hydrate spec => spec = persisted ∧ step.changes = true
  | .mount (some spec) =>
    spec = persisted ∧ step.turn.state ≠ (step.before.perform (.mount none)).state
  | _ => False

/-- All that a call can do to a specification and to those who follow it. -/
inductive SpecEffect (step : ViewStep) : Prop where
  /-- The specification stays, and nobody is told of it. -/
  | keep (spec : step.turn.state.spec = step.before.spec)
      (settled : step.turn.state.hydrated = step.before.hydrated) (edits : step.edits = false)
      (takes : ∀ persisted, ¬step.TakesOver persisted)
      (silent : ∀ notice ∈ step.turn.notices, notice.tellsSpec = false)
  /-- A kept specification takes its place, and nobody is told anything. -/
  | takeOver (persisted : Spec) (spec : step.turn.state.spec = persisted)
      (before : step.before.hydrated = false) (settled : step.turn.state.hydrated = true)
      (edits : step.edits = false) (takes : ∀ other, step.TakesOver other ↔ other = persisted)
      (silent : step.turn.notices = [])
  /-- An edit changes it, and everybody is told. -/
  | change (mounted : step.before.phase.stage = .mounted)
      (subscribers : step.turn.state.subscribers = step.before.subscribers)
      (settled : step.turn.state.hydrated = true) (edits : step.edits = true)
      (takes : ∀ persisted, ¬step.TakesOver persisted)
      (told : step.turn.notices = step.turn.state.broadcast)

end ViewStep

namespace ChartView

variable {v : ChartView}

/-- What holds of every refusal and of the turn of a mounted chart holds of the call. -/
theorem whenLive_induction {α : Type} {motive : Turn ChartView α → Prop} {turn : Turn ChartView α}
    (refused : ∀ refusal, motive (.refused v refusal))
    (live : v.phase.stage = .mounted → motive turn) : motive (v.whenLive turn) := by
  cases hrefusal : v.refusal? with
  | none =>
    simp only [whenLive, hrefusal]
    exact live (refusal?_eq_none_iff.1 hrefusal)
  | some refusal =>
    simp only [whenLive, hrefusal]
    exact refused refusal

/-- A published event tells of a specification only if it is about one. -/
theorem publish_silent {event : Event} (h : event.kind ≠ .specChanged) :
    ∀ notice ∈ v.publish event, notice.tellsSpec = false := by
  intro notice hnotice
  rw [publish] at hnotice
  split at hnotice
  · rw [List.mem_singleton.1 hnotice]
    exact beq_eq_false_iff_ne.2 h
  · cases hnotice

/-- Noting a chart as outdated leaves its followers alone. -/
theorem subscribers_markStale (v : ChartView) : v.markStale.subscribers = v.subscribers := by
  rw [markStale_eq]

/-- Without notices nobody is told of a specification. -/
theorem silent_of_eq_nil {notices : List Notice} (h : notices = []) :
    ∀ notice ∈ notices, notice.tellsSpec = false := by
  intro notice hnotice
  rw [h] at hnotice
  cases hnotice

/-- A step that leaves everything as it is and tells nobody. -/
theorem specEffect_of_unchanged {step : ViewStep} (state : step.turn.state = step.before)
    (notices : step.turn.notices = []) (edits : step.edits = false)
    (takes : ∀ persisted, ¬step.TakesOver persisted) : step.SpecEffect :=
  .keep (by rw [state]) (by rw [state]) edits takes (silent_of_eq_nil notices)

/-- A call that brings no specification, and is silent about the one that is there. -/
theorem specEffect_keep {call : ViewCall} (hspec : (v.sheet.take call).spec = v.spec)
    (hsettled : (v.sheet.take call).settled = v.hydrated)
    (edits : (⟨v, call, v.perform call⟩ : ViewStep).edits = false)
    (takes : ∀ persisted, ¬(⟨v, call, v.perform call⟩ : ViewStep).TakesOver persisted)
    (silent : ∀ notice ∈ (v.perform call).notices, notice.tellsSpec = false) :
    (⟨v, call, v.perform call⟩ : ViewStep).SpecEffect := by
  have hperform := v.sheet_perform call
  refine .keep ?_ ?_ edits takes silent
  · exact (congrArg Sheet.spec hperform).trans hspec
  · exact (congrArg Sheet.settled hperform).trans hsettled

/-- Hydrating takes over the kept specification, or keeps the one of the chart. -/
theorem hydrate_specEffect (v : ChartView) (persisted : Spec) :
    (⟨v, .hydrate persisted, v.perform (.hydrate persisted)⟩ : ViewStep).SpecEffect := by
  by_cases hphase : v.phase = .tornDown
  · have hturn : v.perform (.hydrate persisted) = .refused v (.tornDown v.id) := by
      rw [perform, hydrate, if_pos hphase]
      rfl
    rw [hturn]
    refine specEffect_of_unchanged rfl rfl rfl fun other hother => ?_
    cases hother.2
  · cases hh : v.hydrated with
    | true =>
      have hturn : v.perform (.hydrate persisted) = .done v (.flag false) := by
        rw [perform, hydrate, if_neg hphase, hh]
        rfl
      rw [hturn]
      refine specEffect_of_unchanged rfl rfl rfl fun other hother => ?_
      cases hother.2
    | false =>
      have hturn : v.perform (.hydrate persisted) =
          .done { v with hydrated := true, spec := persisted }.markStale (.flag true) := by
        rw [perform, hydrate, if_neg hphase, hh]
        rfl
      rw [hturn, markStale_eq]
      refine .takeOver persisted rfl hh rfl rfl (fun other => ⟨fun h => h.1.symm, fun h => ?_⟩) rfl
      exact ⟨h.symm, rfl⟩

/-- A chart that has not been mounted is mounted, with the specification that is given unless it is
too late for that. -/
theorem perform_mount_of_new (h : v.phase = .uninitialized) (persisted : Option Spec) :
    v.perform (.mount persisted) = .done
      { v with
        phase := .ready
        spec := if v.hydrated then v.spec else persisted.getD v.spec
        hydrated := v.hydrated || persisted.isSome }
      .nothing := by
  cases persisted with
  | none =>
    simp only [perform, mount, h, Option.getD_none, ite_self, Option.isSome_none, Bool.or_false]
    rfl
  | some spec =>
    cases hh : v.hydrated with
    | true =>
      simp [perform, mount, h, hydrate, hh, Turn.andThen, Turn.done, Turn.replying, Except.map]
    | false =>
      simp [perform, mount, h, hydrate, hh, markStale, Turn.andThen, Turn.done, Turn.replying,
        Except.map]

/-- A chart that is mounted already, or removed, is not mounted again. -/
theorem perform_mount_of_not_new (h : v.phase ≠ .uninitialized) (persisted : Option Spec) :
    (v.perform (.mount persisted)).state = v ∧ (v.perform (.mount persisted)).notices = [] := by
  cases hp : v.phase with
  | uninitialized => exact absurd hp h
  | _ => simp only [perform, mount, hp]; exact ⟨rfl, rfl⟩

/-- Mounting takes over the kept specification, or keeps the one of the chart. -/
theorem mount_specEffect (v : ChartView) (persisted : Option Spec) :
    (⟨v, .mount persisted, v.perform (.mount persisted)⟩ : ViewStep).SpecEffect := by
  by_cases hphase : v.phase = .uninitialized
  · have hnone := perform_mount_of_new hphase none
    have hturn := perform_mount_of_new hphase persisted
    cases persisted with
    | none =>
      rw [hturn]
      exact .keep (ite_self _) (Bool.or_false _) rfl (fun _ h => h) (silent_of_eq_nil rfl)
    | some spec =>
      cases hh : v.hydrated with
      | true =>
        rw [hh] at hnone hturn
        rw [hturn]
        refine .keep rfl hh.symm rfl (fun other hother => ?_) (silent_of_eq_nil rfl)
        exact hother.2 (by rw [hnone]; rfl)
      | false =>
        rw [hh] at hnone hturn
        rw [hturn]
        refine .takeOver spec rfl hh rfl rfl (fun other => ⟨fun h => h.1.symm, fun h => ?_⟩) rfl
        refine ⟨h.symm, fun hsame => ?_⟩
        rw [hnone] at hsame
        cases congrArg ChartView.hydrated hsame
  · obtain ⟨hstate, hnotices⟩ := perform_mount_of_not_new hphase persisted
    obtain ⟨hnone, -⟩ := perform_mount_of_not_new hphase none
    refine specEffect_of_unchanged hstate hnotices rfl fun other hother => ?_
    cases persisted with
    | none => exact hother
    | some spec => exact hother.2 (hstate.trans hnone.symm)

/-- An edit is refused, or it changes nothing, or it is told to everybody. -/
theorem replaceSpec_specEffect (v : ChartView) (spec : Spec) :
    (⟨v, .replaceSpec spec, v.perform (.replaceSpec spec)⟩ : ViewStep).SpecEffect := by
  rw [perform, replaceSpec]
  refine whenLive_induction (motive := fun turn =>
    (⟨v, .replaceSpec spec, turn.replying .flag⟩ : ViewStep).SpecEffect) (fun refusal => ?_)
    fun hmounted => ?_
  · exact specEffect_of_unchanged rfl rfl rfl fun _ hother => hother
  · split
    · exact specEffect_of_unchanged rfl rfl rfl fun _ hother => hother
    · refine .change hmounted ?_ ?_ rfl (fun _ hother => hother) rfl
      · exact subscribers_markStale { v with spec, hydrated := true }
      · exact congrArg ChartView.hydrated (markStale_eq _)

/-- One edit is the same as making the edited specification the one of the chart. -/
theorem edit_specEffect (v : ChartView) (e : SpecEdit) :
    (⟨v, .edit e, v.perform (.edit e)⟩ : ViewStep).SpecEffect := by
  cases replaceSpec_specEffect v (v.spec.apply e) with
  | keep spec settled edits takes silent => exact .keep spec settled edits takes silent
  | takeOver persisted spec before settled edits takes silent =>
    exact .takeOver persisted spec before settled edits takes silent
  | change mounted subscribers settled edits takes told =>
    exact .change mounted subscribers settled edits takes told

/-- The turn of a call that has nothing to do with the specification and those who follow it. -/
structure Quiet {α : Type} (v : ChartView) (turn : Turn ChartView α) : Prop where
  /-- The same subscribers follow the chart. -/
  subscribers : turn.state.subscribers = v.subscribers
  /-- Nobody is told of a specification. -/
  silent : ∀ notice ∈ turn.notices, notice.tellsSpec = false

/-- A quiet call stays quiet where it is refused on a removed chart. -/
theorem quiet_whenLive {α : Type} {turn : Turn ChartView α} (h : v.Quiet turn) :
    v.Quiet (v.whenLive turn) :=
  whenLive_induction (fun _ => ⟨rfl, silent_of_eq_nil rfl⟩) fun _ => h

/-- New filters tell nobody of a specification. -/
theorem quiet_setFilters (v : ChartView) (filters : FilterSet) :
    v.Quiet (v.setFilters filters) := by
  refine quiet_whenLive ?_
  split
  · exact ⟨rfl, silent_of_eq_nil rfl⟩
  · exact ⟨subscribers_markStale { v with filters }, silent_of_eq_nil rfl⟩

/-- New columns tell nobody of a specification. -/
theorem quiet_setCatalog (v : ChartView) (catalog : Catalog) :
    v.Quiet (v.setCatalog catalog) := by
  refine quiet_whenLive ?_
  split
  · exact ⟨rfl, silent_of_eq_nil rfl⟩
  · exact ⟨subscribers_markStale { v with catalog }, silent_of_eq_nil rfl⟩

/-- A refresh tells nobody of a specification. -/
theorem quiet_refresh (v : ChartView) : v.Quiet v.refresh :=
  quiet_whenLive ⟨subscribers_markStale v, silent_of_eq_nil rfl⟩

/-- Handing out a query tells nobody of a specification. -/
theorem quiet_poll (v : ChartView) : v.Quiet v.poll := by
  refine quiet_whenLive ?_
  split
  · split
    · exact ⟨rfl, silent_of_eq_nil rfl⟩
    · split
      · exact ⟨rfl, silent_of_eq_nil rfl⟩
      · exact ⟨rfl, publish_silent nofun⟩
  · exact ⟨rfl, silent_of_eq_nil rfl⟩

/-- Taking an answer tells nobody of a specification. -/
theorem quiet_complete (v : ChartView) (generation : Nat) (result : Except QueryError Response) :
    v.Quiet (v.complete generation result) := by
  refine quiet_whenLive ?_
  split
  · cases result with
    | ok response => exact ⟨rfl, publish_silent nofun⟩
    | error e => exact ⟨rfl, publish_silent nofun⟩
  · exact ⟨rfl, silent_of_eq_nil rfl⟩

/-- Selecting a point tells nobody of a specification. -/
theorem quiet_selectPoint (v : ChartView) (value : Value) : v.Quiet (v.selectPoint value) := by
  refine quiet_whenLive ?_
  cases v.spec.selection? value with
  | none => exact ⟨rfl, silent_of_eq_nil rfl⟩
  | some delta => exact ⟨rfl, publish_silent nofun⟩

/-- Every call has one of the effects. -/
theorem specEffect_perform (v : ChartView) (call : ViewCall) :
    (⟨v, call, v.perform call⟩ : ViewStep).SpecEffect := by
  cases call with
  | mount persisted => exact mount_specEffect v persisted
  | hydrate persisted => exact hydrate_specEffect v persisted
  | edit e => exact edit_specEffect v e
  | replaceSpec spec => exact replaceSpec_specEffect v spec
  | setFilters filters =>
    exact specEffect_keep rfl rfl rfl (fun _ h => h) (quiet_setFilters v filters).silent
  | setCatalog catalog =>
    exact specEffect_keep rfl rfl rfl (fun _ h => h) (quiet_setCatalog v catalog).silent
  | refresh => exact specEffect_keep rfl rfl rfl (fun _ h => h) (quiet_refresh v).silent
  | poll => exact specEffect_keep rfl rfl rfl (fun _ h => h) (quiet_poll v).silent
  | complete generation result =>
    exact specEffect_keep rfl rfl rfl (fun _ h => h) (quiet_complete v generation result).silent
  | selectPoint value =>
    exact specEffect_keep rfl rfl rfl (fun _ h => h) (quiet_selectPoint v value).silent
  | subscribe subscriber => exact specEffect_keep rfl rfl rfl (fun _ h => h) (silent_of_eq_nil rfl)
  | unsubscribe subscriber =>
    exact specEffect_keep rfl rfl rfl (fun _ h => h) (silent_of_eq_nil rfl)
  | tearDown => exact specEffect_keep rfl rfl rfl (fun _ h => h) (silent_of_eq_nil rfl)

/-! ## Who is told -/

/-- Hydrating leaves the followers of a chart alone. -/
theorem subscribers_hydrate (v : ChartView) (persisted : Spec) :
    (v.hydrate persisted).state.subscribers = v.subscribers := by
  rw [hydrate]
  split
  · rfl
  · split
    · rfl
    · exact subscribers_markStale { v with hydrated := true, spec := persisted }

/-- Mounting leaves the followers of a chart alone. -/
theorem subscribers_mount (v : ChartView) (persisted : Option Spec) :
    (v.perform (.mount persisted)).state.subscribers = v.subscribers := by
  by_cases hphase : v.phase = .uninitialized
  · rw [perform_mount_of_new hphase]
    rfl
  · rw [(perform_mount_of_not_new hphase persisted).1]

/-- A new specification leaves the followers of a chart alone. -/
theorem subscribers_replaceSpec (v : ChartView) (spec : Spec) :
    (v.replaceSpec spec).state.subscribers = v.subscribers := by
  refine whenLive_induction (motive := fun turn => turn.state.subscribers = v.subscribers)
    (fun _ => rfl) fun _ => ?_
  split
  · rfl
  · exact subscribers_markStale { v with spec, hydrated := true }

/-- No call but these two changes who follows a chart that is not removed. -/
theorem subscribers_perform (v : ChartView) {call : ViewCall} (h : call ≠ .tearDown) :
    (v.perform call).state.subscribers.registrations =
      call.refollow v.subscribers.registrations := by
  have hkept : (v.perform call).state.subscribers = v.subscribers →
      call.refollow v.subscribers.registrations = v.subscribers.registrations →
      (v.perform call).state.subscribers.registrations =
        call.refollow v.subscribers.registrations := by
    intro hsubscribers hrefollow
    rw [hsubscribers, hrefollow]
  cases call with
  | mount persisted => exact hkept (subscribers_mount v persisted) rfl
  | hydrate persisted => exact hkept (subscribers_hydrate v persisted) rfl
  | edit e => exact hkept (subscribers_replaceSpec v (v.spec.apply e)) rfl
  | replaceSpec spec => exact hkept (subscribers_replaceSpec v spec) rfl
  | setFilters filters => exact hkept (quiet_setFilters v filters).subscribers rfl
  | setCatalog catalog => exact hkept (quiet_setCatalog v catalog).subscribers rfl
  | refresh => exact hkept (quiet_refresh v).subscribers rfl
  | poll => exact hkept (quiet_poll v).subscribers rfl
  | complete generation result => exact hkept (quiet_complete v generation result).subscribers rfl
  | selectPoint value => exact hkept (quiet_selectPoint v value).subscribers rfl
  | subscribe subscriber => rfl
  | unsubscribe subscriber => rfl
  | tearDown => exact absurd rfl h

/-- A removed chart stays removed. -/
theorem removed_perform (h : v.phase = .tornDown) (call : ViewCall) :
    (v.perform call).state.phase = .tornDown := by
  have hstage : v.sheet.stage = .removed := stage_removed_iff.2 h
  have hchange : ∀ spec, v.sheet.change spec = v.sheet := fun spec => by
    rw [Sheet.change, if_neg fun hmounted => by rw [hstage] at hmounted; cases hmounted.1]
  have htake : (v.sheet.take call).stage = .removed := by
    cases call with
    | mount persisted =>
      rw [Sheet.take, if_neg (by rw [hstage]; exact Stage.noConfusion)]
      exact hstage
    | hydrate persisted =>
      rw [Sheet.take, if_pos hstage]
      exact hstage
    | edit e => rw [Sheet.take, hchange]; exact hstage
    | replaceSpec spec => rw [Sheet.take, hchange]; exact hstage
    | tearDown => rfl
    | _ => exact hstage
  exact stage_removed_iff.1 ((congrArg Sheet.stage (v.sheet_perform call)).trans htake)

/-- Those who follow a chart that is not removed are those who have asked for it. -/
theorem registrations_after (h : v.subscribers.registrations = []) (calls : List ViewCall) :
    (v.after calls).phase ≠ .tornDown →
      (v.after calls).subscribers.registrations = followers calls := by
  induction calls using List.reverseRecOn with
  | nil => exact fun _ => h
  | append_singleton calls call ih =>
    rw [after_append, followers, List.foldl_append]
    intro hphase
    have hcall : call ≠ .tearDown := by
      rintro rfl
      exact hphase (stage_removed_iff.1 (congrArg Sheet.stage (v.after calls).sheet_tearDown))
    have hbefore : (v.after calls).phase ≠ .tornDown := fun htorn =>
      hphase (removed_perform htorn call)
    have hafter := subscribers_perform (v.after calls) hcall
    rw [ih hbefore] at hafter
    exact hafter

/-- The steps of some calls are those of the calls, in order. -/
theorem map_call_steps (v : ChartView) (calls : List ViewCall) :
    (v.steps calls).map (·.call) = calls := by
  induction calls generalizing v with
  | nil => rfl
  | cons call rest ih => rw [steps, List.map_cons, ih]

end ChartView

/-! ## What the announcements come to -/

/-- The step settles the specification: it edits it or takes over a kept one. -/
def ViewStep.Settles (step : ViewStep) : Prop :=
  step.edits = true ∨ ∃ persisted, step.TakesOver persisted

/-- Later steps announce behind earlier ones. -/
theorem announced_append (steps later : List ViewStep) :
    announced (steps ++ later) = announced steps ++ announced later :=
  List.flatMap_append

/-- Whoever is silent about the specification announces none. -/
theorem announced_of_silent {step : ViewStep}
    (h : ∀ notice ∈ step.turn.notices, notice.tellsSpec = false) : announced [step] = [] := by
  rw [announced, List.flatMap_singleton, List.filterMap_eq_nil_iff]
  intro notice hnotice
  have hsilent := h notice hnotice
  cases notice with
  | told call => rfl
  | published event =>
    cases event with
    | specChanged chart spec => cases hsilent
    | _ => rfl

/-- A broadcast announces the specification once if there is somebody to publish it to. -/
theorem announced_of_broadcast {step : ViewStep} {v : ChartView}
    (h : step.turn.notices = v.broadcast) :
    announced [step] = if v.publishes then [(v.id, v.spec)] else [] := by
  have htold : ∀ calls : List SpecCall, (calls.map .told).filterMap Notice.announced? = [] := by
    intro calls
    rw [List.filterMap_map, List.filterMap_eq_nil_iff]
    exact fun _ _ => rfl
  rw [announced, List.flatMap_singleton, h, ChartView.broadcast, List.filterMap_append, htold,
    List.nil_append, ChartView.publish]
  split
  · rfl
  · rfl

/-- What holds of the steps of a history and the chart that they leave. -/
structure Announcing (steps : List ViewStep) (now : ChartView) : Prop where
  /-- Once the specification is settled, it is recorded as that. -/
  settled : ∀ step ∈ steps, step.Settles → now.hydrated = true
  /-- No kept specification is taken over from then on. -/
  once : steps.Pairwise fun first second => first.Settles → ∀ persisted, ¬second.TakesOver persisted
  /-- The chart has the specification that was announced last, and it is settled. -/
  last : ∀ last ∈ (announced steps).getLast?,
    last = (now.id, now.spec) ∧ now.hydrated = true ∧ now.publishes = true

/-- One more step keeps what is announced in line with the specification. -/
theorem announcing_concat {steps : List ViewStep} {step : ViewStep}
    (h : Announcing steps step.before) (alike : step.turn.state.Alike step.before)
    (effect : step.SpecEffect) : Announcing (steps ++ [step]) step.turn.state := by
  have hsettled : step.turn.state.hydrated = true ∨
      step.turn.state.hydrated = step.before.hydrated ∧ ¬step.Settles := by
    cases effect with
    | keep spec settled edits takes silent =>
      exact .inr ⟨settled, fun hsettles => hsettles.elim (fun h => by rw [edits] at h; cases h)
        fun ⟨persisted, htakes⟩ => takes persisted htakes⟩
    | takeOver persisted spec before settled edits takes silent => exact .inl settled
    | change mounted subscribers settled edits takes told => exact .inl settled
  refine ⟨fun other hother hsettles => ?_, ?_, fun last hlast => ?_⟩
  · rcases hsettled with hsettled | ⟨hsame, hnot⟩
    · exact hsettled
    · rw [hsame]
      rcases List.mem_append.1 hother with hother | hother
      · exact h.settled other hother hsettles
      · rw [List.mem_singleton.1 hother] at hsettles
        exact absurd hsettles hnot
  · refine List.pairwise_append.2 ⟨h.once, List.pairwise_singleton _ _, ?_⟩
    intro first hfirst second hsecond hsettles persisted htakes
    rw [List.mem_singleton.1 hsecond] at htakes
    have hbefore := h.settled first hfirst hsettles
    cases effect with
    | keep spec settled edits takes silent => exact takes persisted htakes
    | takeOver other spec before settled edits takes silent =>
      rw [hbefore] at before
      cases before
    | change mounted subscribers settled edits takes told => exact takes persisted htakes
  · rw [announced_append] at hlast
    cases effect with
    | keep spec settled edits takes silent =>
      rw [announced_of_silent silent, List.append_nil] at hlast
      rw [alike.id, spec, settled, alike.publishes]
      exact h.last last hlast
    | takeOver persisted spec before settled edits takes silent =>
      -- Nothing has been announced while a kept specification may still take its place.
      rw [announced_of_silent (ChartView.silent_of_eq_nil silent), List.append_nil] at hlast
      rw [(h.last last hlast).2.1] at before
      cases before
    | change mounted subscribers settled edits takes told =>
      rw [announced_of_broadcast told] at hlast
      by_cases hpublishes : step.turn.state.publishes = true
      · rw [if_pos hpublishes, List.getLast?_append, List.getLast?_singleton] at hlast
        exact ⟨(Option.some.inj hlast).symm, settled, hpublishes⟩
      · rw [if_neg hpublishes, List.append_nil] at hlast
        rw [alike.publishes, (h.last last hlast).2.2] at hpublishes
        exact absurd rfl hpublishes

/-- In every history the announcements are in line with the specification. -/
theorem announcing_history (v : ChartView) (calls : List ViewCall) :
    Announcing (v.steps calls) (v.after calls) := by
  refine v.history_induction (motive := Announcing) ⟨?_, List.Pairwise.nil, ?_⟩ ?_ calls
  · exact fun step hstep => absurd hstep List.not_mem_nil
  · exact fun last hlast => absurd hlast (Option.not_mem_none last)
  · intro steps now call ih
    exact announcing_concat ih (ChartView.alike_step (now.perform_effect call))
      (now.specEffect_perform call)

/-- Whom a step of a history tells of the specification, and what it makes of it. -/
structure ViewStep.TellsRightly (step : ViewStep) (id : Uuid) (names : List String)
    (publishes : Bool) : Prop where
  /-- A kept specification takes its place, and nobody is told anything. -/
  takesOver : ∀ persisted, step.TakesOver persisted →
    step.turn.state.spec = persisted ∧ step.turn.notices = []
  /-- An edit is told to everybody who follows the chart and published after that. -/
  edits : step.edits = true → step.turn.notices =
    names.map (fun name => .told ⟨name, id, step.turn.state.spec⟩) ++
      if publishes then [.published (.specChanged id step.turn.state.spec)] else []
  /-- Nothing else tells of a specification. -/
  silent : step.edits = false → ∀ notice ∈ step.turn.notices, notice.tellsSpec = false
  /-- Nothing else changes the specification. -/
  kept : step.edits = false → (∀ persisted, ¬step.TakesOver persisted) →
    step.turn.state.spec = step.before.spec

/-- A step tells the registered followers of an edit, publishes it after that, and tells nobody of a
specification that is taken over. -/
theorem tellsRightly_of_effect {step : ViewStep} {names : List String}
    (alike : step.turn.state.Alike step.before) (effect : step.SpecEffect)
    (followed : step.before.phase ≠ .tornDown → step.before.subscribers.registrations = names) :
    step.TellsRightly step.before.id names step.before.publishes := by
  cases effect with
  | keep spec settled edits takes silent =>
    exact ⟨fun persisted htakes => absurd htakes (takes persisted),
      fun hedits => Bool.noConfusion (edits.symm.trans hedits), fun _ => silent, fun _ _ => spec⟩
  | takeOver persisted spec before settled edits takes silent =>
    exact ⟨fun other hother => ⟨spec.trans ((takes other).1 hother).symm, silent⟩,
      fun hedits => Bool.noConfusion (edits.symm.trans hedits),
      fun _ => ChartView.silent_of_eq_nil silent,
      fun _ hnone => absurd ((takes persisted).2 rfl) (hnone persisted)⟩
  | change mounted subscribers settled edits takes told =>
    have hphase : step.before.phase ≠ .tornDown := fun htorn => by
      rw [htorn] at mounted
      cases mounted
    refine ⟨fun persisted htakes => absurd htakes (takes persisted), fun _ => ?_,
      fun hedits => Bool.noConfusion (edits.symm.trans hedits),
      fun hedits => Bool.noConfusion (edits.symm.trans hedits)⟩
    rw [told, ChartView.broadcast, ChartView.publish, Subscribers.notify, List.map_map,
      subscribers, followed hphase, alike.id, alike.publishes]
    rfl

/-- Whatever is called on a new chart, and in whatever order: once a kept specification has been
taken over or an edit has changed the specification, no kept one is taken over any more. Taking one
over tells nobody anything. An edit that changes the specification is told to those who follow the
chart at that moment, once for each registration and in their order, and then one event is
published if there is somebody to publish it to; all of them carry the specification after the
change. No other call tells of a specification or changes it. The specification that was announced
last is the one that the chart has. -/
theorem specs_announced (id : Uuid) (catalog : Catalog) (options : List ViewOption)
    (calls : List ViewCall) :
    let v := ChartView.build id catalog options
    let steps := v.steps calls
    (steps.Pairwise fun first second => first.Settles →
      ∀ persisted, ¬second.TakesOver persisted) ∧
    (∀ earlier step later, steps = earlier ++ step :: later →
      step.TellsRightly id (followers (earlier.map (·.call))) v.publishes) ∧
    ∀ last ∈ (announced steps).getLast?, last = (id, (v.after calls).spec) := by
  intro v steps
  have hid : v.id = id := ChartView.build_id id catalog options
  have hnobody : v.subscribers.registrations = [] :=
    ChartView.build_induction (motive := fun v => v.subscribers.registrations = []) rfl
      (fun v option h => by cases option <;> exact h) options
  have hhistory := announcing_history v calls
  refine ⟨hhistory.once, fun earlier step later hsteps => ?_, fun last hlast => ?_⟩
  · obtain ⟨front, hearlier, hbefore, hturn⟩ := ChartView.steps_eq_append_cons hsteps
    have halike : step.before.Alike v := by
      rw [hbefore]
      exact v.after_alike front
    have hstep : step = ⟨step.before, step.call, step.before.perform step.call⟩ := by rw [← hturn]
    have hfollowed : step.before.phase ≠ .tornDown →
        step.before.subscribers.registrations = followers (earlier.map (·.call)) := by
      rw [hearlier, ChartView.map_call_steps, hbefore]
      exact ChartView.registrations_after hnobody front
    rw [← hid, ← halike.id, ← halike.publishes]
    refine tellsRightly_of_effect ?_ ?_ hfollowed
    · rw [hstep]
      exact ChartView.alike_step (step.before.perform_effect step.call)
    · rw [hstep]
      exact step.before.specEffect_perform step.call
  · rw [(hhistory.last last hlast).1, (v.after_alike calls).id, hid]

/-- A kept specification that comes late is taken over silently, an edit is announced, and a second
kept one is not taken over. -/
example :
    let calls : List ViewCall :=
      [.mount none, .hydrate { kind := .kpi }, .edit (.kind .pie), .hydrate { kind := .bar }]
    let steps := (ChartView.build Uuid.nil {} [.publishes]).steps calls
    steps.map (·.changes) = [false, true, true, false] ∧
      (announced steps).map (·.2.kind) = [.pie] :=
  ⟨rfl, rfl⟩

end Chartboard
