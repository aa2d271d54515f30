import Chartboard.Proofs.Dashboard.Delivery

/-!
# Charts in step with the shared filters

The shared filters are held twice: by the session, and by every chart that follows them. As long as
nobody goes behind the back of the session, by giving a chart other filters or by removing it, both
stay in agreement: charts are added with the shared filters, the charts that are registered are
those that are there, every chart takes calls, and so every delivery reaches every chart that
follows. A chart that shows something or waits for an answer then goes out of date exactly if the
shared filters change.
-/

namespace Chartboard

open Json (Value)

/-! ## Calls on a chart that keep it in step -/

/-- The chart goes out of date when something changes. -/
def Phase.goesStale : Phase → Bool
  | .ready | .compiling _ | .rendered _ | .failed => true
  | _ => false

/-- The call neither replaces the filters of the chart nor removes the chart. -/
def ViewCall.keepsStep : ViewCall → Bool
  | .setFilters _ => false
  | .tearDown => false
  | _ => true

/-- The call leaves every chart to the session: it does not give one other filters or remove it
behind the back of the session. -/
def SessionCall.keepsStep : SessionCall → Bool
  | onChart _ call => call.keepsStep
  | _ => true

namespace ChartView

variable {v w : ChartView} {filters : FilterSet}

/-- A view has the filters of another one, and it takes calls if the other one does. -/
structure InStepWith (w v : ChartView) : Prop where
  /-- The filters are the same. -/
  filters : w.filters = v.filters
  /-- It takes calls as before. -/
  live : v.refusal? = none → w.refusal? = none

/-- A view is in step with itself. -/
theorem inStepWith_refl (v : ChartView) : v.InStepWith v :=
  ⟨rfl, fun h => h⟩

/-- What a chart shows or waits for becomes stale. -/
theorem markStale_phase_of_goesStale (h : v.phase.goesStale = true) :
    v.markStale.phase = .stale := by
  cases hp : v.phase with
  | ready => simp only [markStale, hp]
  | compiling generation => simp only [markStale, hp]
  | rendered generation => simp only [markStale, hp]
  | failed => simp only [markStale, hp]
  | _ =>
    rw [hp] at h
    cases h

/-- A chart takes calls whether or not something is noted as changed. -/
theorem markStale_refusal? (v : ChartView) : v.markStale.refusal? = v.refusal? := by
  cases hp : v.phase <;> simp only [markStale, refusal?, hp]

/-- Given filters agree with those that the chart has then. -/
theorem given_filters_same (h : filters.isCanonical) (v : ChartView) :
    (v.given filters).filters.same filters := by
  by_cases hsame : v.filters.same filters
  · rwa [given_of_same hsame]
  · rw [given_of_not_same hsame, markStale_filters]
    exact FilterSet.same_refl h

/-- Given filters do not decide whether the chart takes calls. -/
theorem given_refusal? (filters : FilterSet) (v : ChartView) :
    (v.given filters).refusal? = v.refusal? := by
  unfold given
  split
  · rfl
  · rw [markStale_refusal?]
    rfl

/-- Given filters make a chart go out of date exactly if they do not agree with its own. -/
theorem given_stale_iff (h : v.phase.goesStale = true) :
    (v.given filters).phase = .stale ↔ ¬v.filters.same filters := by
  constructor
  · intro hstale hsame
    rw [given_of_same hsame] at hstale
    rw [hstale] at h
    cases h
  · intro hsame
    rw [given_of_not_same hsame]
    exact markStale_phase_of_goesStale h

/-- A change of anything but the filters and the phase, noted as such. -/
theorem inStepWith_markStale (hfilters : w.filters = v.filters) (hphase : w.phase = v.phase)
    (hid : w.id = v.id) : w.markStale.InStepWith v where
  filters := (markStale_filters w).trans hfilters
  live h := by
    rw [markStale_refusal?, refusal?, hphase, hid]
    exact h

/-- A turn that stays in step does so for a view that refuses it as well. -/
theorem inStepWith_whenLive {α : Type} {turn : Turn ChartView α} (h : turn.state.InStepWith v) :
    (v.whenLive turn).state.InStepWith v := by
  rcases whenLive_cases v turn with hlive | ⟨refusal, hrefused⟩
  · rw [hlive]
    exact h
  · rw [hrefused]
    exact inStepWith_refl v

/-- Taking over a specification keeps a view in step. -/
theorem hydrate_inStep (v : ChartView) (persisted : Spec) :
    (v.hydrate persisted).state.InStepWith v := by
  unfold hydrate
  split
  · exact inStepWith_refl v
  · split
    · exact inStepWith_refl v
    · exact inStepWith_markStale rfl rfl rfl

/-- Mounting keeps a view in step. -/
theorem mount_inStep (v : ChartView) (persisted : Option Spec) :
    (v.mount persisted).state.InStepWith v := by
  cases hp : v.phase with
  | tornDown =>
    simp only [mount, hp]
    exact inStepWith_refl v
  | uninitialized =>
    -- An unmounted chart takes no calls, so only its filters are to be kept.
    have hrefusal : v.refusal? = some (.notMounted v.id) := by simp only [refusal?, hp]
    refine ⟨?_, fun hlive => absurd hlive (by rw [hrefusal]; exact Option.some_ne_none _)⟩
    cases persisted with
    | none => simp only [mount, hp]; rfl
    | some spec =>
      cases hh : v.hydrated with
      | false => simp [mount, hp, hydrate, hh, markStale, Turn.andThen, Turn.done]
      | true => simp [mount, hp, hydrate, hh, Turn.andThen, Turn.done]
  | _ =>
    simp only [mount, hp]
    exact inStepWith_refl v

/-- A new specification keeps a view in step. -/
theorem replaceSpec_inStep (v : ChartView) (spec : Spec) :
    (v.replaceSpec spec).state.InStepWith v := by
  refine inStepWith_whenLive ?_
  split
  · exact inStepWith_refl v
  · exact inStepWith_markStale rfl rfl rfl

/-- A new catalog keeps a view in step. -/
theorem setCatalog_inStep (v : ChartView) (catalog : Catalog) :
    (v.setCatalog catalog).state.InStepWith v := by
  refine inStepWith_whenLive ?_
  split
  · exact inStepWith_refl v
  · exact inStepWith_markStale rfl rfl rfl

/-- A poll keeps a view in step. -/
theorem poll_inStep (v : ChartView) : v.poll.state.InStepWith v := by
  refine inStepWith_whenLive ?_
  split
  · split
    · exact ⟨rfl, fun _ => rfl⟩
    · split
      · exact ⟨rfl, fun _ => rfl⟩
      · exact ⟨rfl, fun _ => rfl⟩
  · exact inStepWith_refl v

/-- An answer keeps a view in step. -/
theorem complete_inStep (v : ChartView) (generation : Nat) (result : Except QueryError Response) :
    (v.complete generation result).state.InStepWith v := by
  refine inStepWith_whenLive ?_
  split
  · cases result with
    | ok response => exact ⟨rfl, fun _ => rfl⟩
    | error e => exact ⟨rfl, fun _ => rfl⟩
  · exact inStepWith_refl v

/-- A refresh keeps a view in step. -/
theorem refresh_inStep (v : ChartView) : v.refresh.state.InStepWith v := by
  refine inStepWith_whenLive ?_
  exact inStepWith_markStale rfl rfl rfl

/-- A selection keeps its own view in step. -/
theorem selectPoint_inStep (v : ChartView) (value : Value) :
    (v.selectPoint value).state.InStepWith v :=
  inStepWith_whenLive (inStepWith_refl v)

/-- A call that does not replace the filters keeps them, and no call but the removal makes a chart
refuse calls. -/
theorem perform_inStep (v : ChartView) {call : ViewCall} (h : call.keepsStep = true) :
    (v.perform call).state.InStepWith v := by
  cases call with
  | mount persisted => exact mount_inStep v persisted
  | hydrate persisted => exact hydrate_inStep v persisted
  | edit e => exact replaceSpec_inStep v (v.spec.apply e)
  | replaceSpec spec => exact replaceSpec_inStep v spec
  | setFilters filters => cases h
  | setCatalog catalog => exact setCatalog_inStep v catalog
  | refresh => exact refresh_inStep v
  | poll => exact poll_inStep v
  | complete generation result => exact complete_inStep v generation result
  | selectPoint value => exact selectPoint_inStep v value
  | subscribe subscriber => exact ⟨rfl, fun h => h⟩
  | unsubscribe subscriber => exact ⟨rfl, fun h => h⟩
  | tearDown => cases h

end ChartView

/-! ## Registered charts -/

namespace SharedFilters

variable {s : SharedFilters} {chart : Uuid}

/-- A chart follows the shared filters if it is registered so. -/
theorem receives_of_registered {participation : Participation}
    (h : s.registered.get? chart = some participation) :
    s.receives chart = participation.receives := by
  rw [receives, SharedFilters.participation, h, Option.getD_some]

end SharedFilters

/-! ## Sessions in step -/

namespace Session

/-- The charts of a session are in step with its filters. -/
structure InStep (s : Session) : Prop where
  /-- The registered charts are those that are there. -/
  registered : ∀ id, id ∈ s.shared.registered.keys ↔ id ∈ s.charts.keys
  /-- Every chart takes calls. -/
  live : ∀ id v, s.charts.get? id = some v → v.refusal? = none
  /-- The charts that follow the shared filters have filters that agree with them. -/
  following : ∀ id v, s.charts.get? id = some v → s.shared.receives id = true →
    v.filters.same s.shared.filters
  /-- The shared filters are canonical. -/
  canonical : s.shared.filters.isCanonical

variable {s t : Session} {chart : Uuid} {v w : ChartView} {filters : FilterSet}

/-- A new chart begins with the shared filters. -/
theorem inStep_withChart (h : s.InStep) (chart : Uuid) (persisted : Option Spec)
    (participation : Participation) : (s.withChart chart persisted participation).InStep where
  registered id := by
    simp only [withChart, SharedFilters.register, Ledger.mem_keys_insert, h.registered]
  live id v hv := by
    simp only [withChart, Ledger.get?_insert] at hv
    split at hv
    · cases hv
      rfl
    · exact h.live id v hv
  following id v hv hreceives := by
    simp only [withChart, Ledger.get?_insert] at hv
    split at hv
    · cases hv
      exact FilterSet.same_refl h.canonical
    · next hid =>
      refine h.following id v hv ?_
      have hpart := s.shared.participation_register chart id participation
      rw [if_neg hid] at hpart
      rw [← hreceives]
      exact congrArg Participation.receives hpart.symm
  canonical := h.canonical

/-- A chart that is removed is no longer registered. -/
theorem inStep_removeChart (h : s.InStep) (chart : Uuid) : (s.removeChart chart).2.InStep := by
  unfold removeChart
  split
  · exact h
  · refine ⟨fun id => ?_, fun id v hv => ?_, fun id v hv hreceives => ?_, h.canonical⟩
    · simp only [SharedFilters.unregister, Ledger.mem_keys_erase, h.registered]
    · simp only [Ledger.get?_erase] at hv
      split at hv
      · cases hv
      · exact h.live id v hv
    · simp only [Ledger.get?_erase] at hv
      split at hv
      · cases hv
      · next hid =>
        refine h.following id v hv ?_
        rw [← hreceives]
        exact congrArg Participation.receives (s.shared.participation_unregister hid).symm

/-- One chart may change as long as it keeps its filters and takes calls. -/
theorem inStep_put (h : s.InStep) (hv : s.charts.get? chart = some v) (hw : w.InStepWith v) :
    (s.put chart w).InStep where
  registered id := by
    rw [keys_put hv]
    exact h.registered id
  live id u hu := by
    rw [get?_put] at hu
    split at hu
    · cases hu
      exact hw.live (h.live chart v hv)
    · exact h.live id u hu
  following id u hu hreceives := by
    rw [get?_put] at hu
    split at hu
    · next hid =>
      cases hu
      subst hid
      rw [hw.filters]
      exact h.following id v hv hreceives
    · exact h.following id u hu hreceives
  canonical := h.canonical

/-- A call on a chart that gives it no filters keeps the session in step. -/
theorem inStep_onChart (h : s.InStep) (chart : Uuid) {call : ViewCall}
    (hcall : call.keepsStep = true) : (s.left (.onChart chart call)).InStep := by
  cases hv : s.charts.get? chart with
  | none =>
    rw [left_onChart_of_none hv]
    exact h
  | some v =>
    rw [left_onChart hv]
    exact inStep_put h hv (v.perform_inStep hcall)

/-- Charts that run stay in step. -/
theorem inStep_refreshAll {ε : Type} (h : s.InStep) (execute : Executor ε) (env : ε) :
    (s.left (.refreshAll execute env)).InStep := by
  obtain ⟨calls, hcalls, hleft⟩ := refreshAll_eq_after execute env s
  rw [hleft]
  refine after_induction (motive := InStep) (fun call => call.isQuery = true)
    (fun s call hquery hs => ?_) h hcalls
  unfold SessionCall.isQuery at hquery
  split at hquery
  · exact inStep_onChart hs _ rfl
  · exact inStep_onChart hs _ rfl
  · cases hquery

/-- In a session in step, a delivery reaches every chart that follows the shared filters. -/
theorem get?_delivered (h : s.InStep)
    (hdelivered : Delivered filters (s.served s.charts.keys) (s.withFilters filters) t)
    (id : Uuid) : t.charts.get? id = (s.charts.get? id).map fun v =>
      if s.shared.receives id = true then v.given filters else v := by
  have haccepts : ∀ other ∈ s.charts.keys, s.accepts other = true := by
    intro other _
    unfold accepts
    cases hv : s.charts.get? other with
    | none => rfl
    | some v =>
      rw [Option.all_some, h.live other v hv]
      rfl
  rw [hdelivered.charts]
  change (if id ∈ s.served s.charts.keys then (s.charts.get? id).map _ else s.charts.get? id) = _
  cases hv : s.charts.get? id with
  | none => exact ite_self none
  | some v =>
    have hmem : id ∈ s.charts.keys := Ledger.mem_keys_iff.2 ⟨_, hv⟩
    by_cases hreceives : s.shared.receives id = true
    · rw [if_pos (mem_served_of_live haccepts hmem hreceives), Option.map_some, Option.map_some,
        if_pos hreceives]
    · rw [if_neg fun hserved => hreceives (mem_of_mem_served hserved).2, Option.map_some,
        if_neg hreceives]

/-- A delivery brings a session in step with the new filters. -/
theorem inStep_delivered (h : s.InStep) (hcanonical : filters.isCanonical)
    (hdelivered : Delivered filters (s.served s.charts.keys) (s.withFilters filters) t) :
    t.InStep := by
  have hshared : t.shared = s.shared.setFilters filters := by
    rw [hdelivered.frame]
    rfl
  refine ⟨fun id => ?_, fun id w hw => ?_, fun id w hw hreceives => ?_, ?_⟩
  · rw [hshared, hdelivered.keys]
    exact h.registered id
  · rw [get?_delivered h hdelivered] at hw
    obtain ⟨v, hv, rfl⟩ := Option.map_eq_some_iff.1 hw
    split
    · rw [ChartView.given_refusal?]
      exact h.live id v hv
    · exact h.live id v hv
  · rw [get?_delivered h hdelivered] at hw
    obtain ⟨v, -, rfl⟩ := Option.map_eq_some_iff.1 hw
    rw [hshared] at hreceives ⊢
    change s.shared.receives id = true at hreceives
    rw [if_pos hreceives]
    exact ChartView.given_filters_same hcanonical v
  · rw [hshared]
    exact hcanonical

/-- The filters that a call asks for are canonical if the values are that it brings. -/
theorem requested?_isCanonical {call : FilterCall} (h : s.shared.filters.isCanonical)
    (hcall : call.isCanonical) (hrequested : s.requested? call = some filters) :
    filters.isCanonical := by
  cases call with
  | set given =>
    cases hrequested
    exact hcall
  | clear =>
    cases hrequested
    exact FilterSet.isCanonical_empty
  | select chart value =>
    obtain ⟨delta, hselected, rfl⟩ := Option.map_eq_some_iff.1 hrequested
    obtain ⟨v, -, -, -, hselection⟩ := selected?_eq_some hselected
    refine FilterSet.isCanonical_merge h s.policy ?_
    rw [Spec.value_of_selection? hselection]
    exact hcall

/-- A change of the shared filters keeps the session in step. -/
theorem inStep_changeFilters (h : s.InStep) {call : FilterCall} (hcall : call.isCanonical) :
    (s.changeFilters call).state.InStep := by
  cases hrequested : s.requested? call with
  | none =>
    rw [(changeFilters_of_none hrequested).1]
    exact h
  | some filters =>
    exact inStep_delivered h (requested?_isCanonical h.canonical hcall hrequested)
      (changeFilters_delivered hrequested)

/-- Every call that leaves the charts to the session keeps them in step. -/
theorem inStep_left (h : s.InStep) {call : SessionCall} (hcall : call.isCanonical)
    (hkeeps : call.keepsStep) : (s.left call).InStep := by
  cases call with
  | configure option => cases option <;> exact ⟨h.registered, h.live, h.following, h.canonical⟩
  | setId id => exact ⟨h.registered, h.live, h.following, h.canonical⟩
  | addChart chart persisted participation =>
    rw [left, addChart_eq]
    exact inStep_withChart h chart persisted participation
  | removeChart chart => exact inStep_removeChart h chart
  | changeFilters call => exact inStep_changeFilters h hcall
  | refreshAll execute env => exact inStep_refreshAll h execute env
  | onChart chart call => exact inStep_onChart h chart hkeeps

/-- A session without charts is in step. -/
theorem inStep_of_noCharts (hregistered : s.shared.registered = ∅)
    (hcharts : s.charts = ∅) (h : s.shared.filters.isCanonical) : s.InStep where
  registered id := by
    rw [hregistered, hcharts]
    exact Iff.rfl
  live id v hv := by
    rw [hcharts] at hv
    cases hv
  following id v hv := by
    rw [hcharts] at hv
    cases hv
  canonical := h

/-- A session begins in step. -/
theorem inStep_start {start : SessionStart} (h : start.isCanonical) : start.session.InStep := by
  cases start with
  | empty name datasetId catalog => exact inStep_of_noCharts rfl rfl FilterSet.isCanonical_empty
  | document identify d catalog =>
    refine (addCharts_induction (motive := InStep) identify
      (fun s chart spec hs => inStep_withChart hs chart (some spec) {}) ?_ 0 d.charts).2
    exact inStep_of_noCharts rfl rfl h

/-- In a session in step no change of the shared filters is refused. -/
theorem changeFilters_answer (h : s.InStep) (call : FilterCall) :
    ∃ delta, (s.changeFilters call).answer = .ok delta := by
  cases hanswer : (s.changeFilters call).answer with
  | ok delta => exact ⟨delta, rfl⟩
  | error refusal =>
    obtain ⟨chart, v, hv, hrefusal⟩ := changeFilters_refused hanswer
    rw [h.live chart v hv] at hrefusal
    cases hrefusal

/-- In a session in step, a chart that follows the shared filters goes out of date exactly if they
change. -/
theorem changeFilters_stale_iff (h : s.InStep) (call : FilterCall)
    (hv : s.charts.get? chart = some v) (hreceives : s.shared.receives chart = true)
    (hphase : v.phase.goesStale = true) :
    ∃ w, (s.changeFilters call).state.charts.get? chart = some w ∧
      (w.phase = .stale ↔
        ¬s.shared.filters.same (s.changeFilters call).state.shared.filters) := by
  cases hrequested : s.requested? call with
  | none =>
    rw [(changeFilters_of_none hrequested).1]
    refine ⟨v, hv, fun hstale => ?_, fun hchanged => ?_⟩
    · rw [hstale] at hphase
      cases hphase
    · exact absurd (FilterSet.same_refl h.canonical) hchanged
  | some filters =>
    -- The chart compares the new filters with its own, which agree with the shared ones.
    have hshared : (s.changeFilters call).state.shared.filters = filters := by
      rw [changeFilters_filters, hrequested, Option.getD_some]
    refine ⟨v.given filters, ?_, ?_⟩
    · rw [get?_delivered h (changeFilters_delivered hrequested), hv, Option.map_some,
        if_pos hreceives]
    · rw [hshared, ← FilterSet.same_congr (h.following chart v hv hreceives)]
      exact ChartView.given_stale_iff hphase

/-- However a session begins, and whatever is called as long as the charts are left to the session:
the registered charts are those that are there, and every chart that is registered to follow the
shared filters has filters that agree with them. A call that changes the shared filters is not
refused, it makes the filters that it asks for the shared ones, and a chart that follows them, and
that shows something or waits for an answer, goes out of date exactly if they have changed. -/
theorem charts_in_step (start : SessionStart) (calls : List SessionCall)
    (hstart : start.isCanonical)
    (hcalls : ∀ call ∈ calls, call.isCanonical = true ∧ call.keepsStep = true) :
    let s := start.session.after calls
    (∀ id, id ∈ s.shared.registered.keys ↔ id ∈ s.charts.keys) ∧
    (∀ id participation v, s.shared.registered.get? id = some participation →
      participation.receives = true → s.charts.get? id = some v →
      v.filters.same s.shared.filters) ∧
    ∀ call : FilterCall,
      (∃ delta, (s.changeFilters call).answer = .ok delta) ∧
      (s.changeFilters call).state.shared.filters =
        (s.requested? call).getD s.shared.filters ∧
      ∀ id participation v, s.shared.registered.get? id = some participation →
        participation.receives = true → s.charts.get? id = some v → v.phase.goesStale = true →
        ∃ w, (s.changeFilters call).state.charts.get? id = some w ∧
          (w.phase = .stale ↔
            ¬s.shared.filters.same (s.changeFilters call).state.shared.filters) := by
  intro s
  have h : s.InStep := after_induction (motive := InStep)
    (fun call => call.isCanonical = true ∧ call.keepsStep = true)
    (fun s call hcall hs => inStep_left hs hcall.1 hcall.2) (inStep_start hstart) hcalls
  refine ⟨h.registered, fun id participation v hp hreceives hv => ?_, fun call =>
    ⟨changeFilters_answer h call, changeFilters_filters s call,
      fun id participation v hp hreceives hv hphase => ?_⟩⟩
  · exact h.following id v hv ((SharedFilters.receives_of_registered hp).trans hreceives)
  · exact changeFilters_stale_iff h call hv
      ((SharedFilters.receives_of_registered hp).trans hreceives) hphase

/-- Two bar charts are added, and nothing is asked for yet. -/
def twoBars : List SessionCall :=
  let bars : Spec := { kind := .bar, groupBy := some "region", valueColumn := some "sales" }
  [.addChart (Uuid.ofNat 1) (some bars) {}, .addChart (Uuid.ofNat 2) (some bars) {}]

/-- A point of the first chart is selected, and the second chart goes out of date. -/
theorem charts_in_step_twoBars :
    let start := SessionStart.empty "Sales" "sales.csv" {}
    let s := start.session.after twoBars
    let selected := (s.changeFilters (.select (Uuid.ofNat 1) (.string "East"))).state
    start.isCanonical = true ∧
    (∀ call ∈ twoBars, call.isCanonical = true ∧ call.keepsStep = true) ∧
    ∃ w, selected.charts.get? (Uuid.ofNat 2) = some w ∧ w.phase = .stale ∧
      ¬s.shared.filters.same selected.shared.filters := by
  intro start s selected
  have hcalls : ∀ call ∈ twoBars, call.isCanonical = true ∧ call.keepsStep = true := by
    simp [twoBars, SessionCall.isCanonical, SessionCall.keepsStep]
  obtain ⟨-, -, hchange⟩ := charts_in_step start twoBars rfl hcalls
  obtain ⟨-, -, hcharts⟩ := hchange (.select (Uuid.ofNat 1) (.string "East"))
  obtain ⟨w, hw, hstale⟩ := hcharts (Uuid.ofNat 2) {} _ rfl rfl rfl rfl
  have hchanged : ¬s.shared.filters.same selected.shared.filters := Bool.false_ne_true
  exact ⟨rfl, hcalls, w, hw, hstale.2 hchanged, hchanged⟩

end Session

end Chartboard
