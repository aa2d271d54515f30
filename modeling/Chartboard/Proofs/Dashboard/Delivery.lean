import Chartboard.Proofs.Dashboard.Calls
import Chartboard.Proofs.Outcome

/-!
# Delivered filters

New filters are given to the charts that follow the shared ones, in order and up to the first chart
that refuses them. A call that may change the shared filters either asks for none, and then leaves
the session as it is, or it asks for some: these take the place of the shared filters first, and
then they are delivered.
-/

namespace Chartboard

open Json (Value)

/-! ## Selected values -/

/-- The change that a selected point asks for carries the value of the point. -/
theorem Spec.value_of_selection? {s : Spec} {value : Value} {delta : FilterDelta}
    (h : s.selection? value = some delta) : delta.value = value := by
  unfold Spec.selection? at h
  split at h
  · split at h
    · cases h
      rfl
    · cases h
  · cases h

/-! ## Who takes part -/

namespace SharedFilters

/-- A chart that is registered takes part as it is said there, and the others as before. -/
theorem participation_register (s : SharedFilters) (chart other : Uuid)
    (participation : Participation) :
    (s.register chart participation).participation other =
      if other = chart then participation else s.participation other := by
  rw [SharedFilters.participation, register, Ledger.get?_insert]
  split
  · rfl
  · rfl

/-- A chart that is no longer registered does not change how the others take part. -/
theorem participation_unregister (s : SharedFilters) {chart other : Uuid} (h : other ≠ chart) :
    (s.unregister chart).participation other = s.participation other := by
  rw [SharedFilters.participation, unregister, Ledger.get?_erase, if_neg h,
    SharedFilters.participation]

end SharedFilters

/-! ## Given filters -/

namespace ChartView

variable {v : ChartView}

/-- A stale chart has the same filters as before. -/
theorem markStale_filters (v : ChartView) : v.markStale.filters = v.filters := by
  rw [markStale_eq]

/-- The chart with new filters. It is out of date unless they agree with those that it has. -/
def given (filters : FilterSet) (v : ChartView) : ChartView :=
  if v.filters.same filters then v else { v with filters }.markStale

/-- A chart that takes calls is given the filters, and it answers whether they are new. -/
theorem setFilters_of_live (h : v.refusal? = none) (filters : FilterSet) :
    (v.setFilters filters).state = v.given filters ∧
      (v.setFilters filters).answer = .ok (!v.filters.same filters) := by
  rw [setFilters, whenLive_of_live h, given]
  cases v.filters.same filters <;> exact ⟨rfl, rfl⟩

/-- The same filters once more change nothing. -/
theorem given_of_same {filters : FilterSet} (h : v.filters.same filters) : v.given filters = v := by
  rw [given, if_pos h]

/-- New filters are taken over, and what is shown becomes stale. -/
theorem given_of_not_same {filters : FilterSet} (h : ¬v.filters.same filters) :
    v.given filters = { v with filters }.markStale := by
  rw [given, if_neg h]

end ChartView

/-! ## Deliveries -/

namespace Session

/-- The chart does not refuse new filters. -/
def accepts (s : Session) (chart : Uuid) : Bool :=
  (s.charts.get? chart).all fun v => v.refusal?.isNone

/-- Of some charts, those that get new filters: they follow the shared ones, and no chart in front
of them that does so refuses. -/
def served (s : Session) (ids : List Uuid) : List Uuid :=
  (ids.filter fun chart => s.shared.receives chart).takeWhile fun chart => s.accepts chart

variable {s t : Session} {chart : Uuid} {v : ChartView} {filters : FilterSet}

/-- A chart that does not follow the shared filters is passed over. -/
theorem served_of_not_receives (h : s.shared.receives chart = false) (rest : List Uuid) :
    s.served (chart :: rest) = s.served rest := by
  rw [served, List.filter_cons_of_neg (by rw [h]; exact Bool.false_ne_true), ← served]

/-- A chart that follows the shared filters and does not refuse is served, and the others after
it. -/
theorem served_of_accepts (hreceives : s.shared.receives chart = true)
    (haccepts : s.accepts chart = true) (rest : List Uuid) :
    s.served (chart :: rest) = chart :: s.served rest := by
  rw [served, List.filter_cons_of_pos hreceives, List.takeWhile_cons_of_pos haccepts, ← served]

/-- A chart that follows the shared filters and refuses ends the delivery. -/
theorem served_of_not_accepts (hreceives : s.shared.receives chart = true)
    (haccepts : s.accepts chart = false) (rest : List Uuid) :
    s.served (chart :: rest) = [] := by
  rw [served, List.filter_cons_of_pos hreceives,
    List.takeWhile_cons_of_neg (by rw [haccepts]; exact Bool.false_ne_true)]

/-- A chart that is served follows the shared filters. -/
theorem mem_of_mem_served {ids : List Uuid} (h : chart ∈ s.served ids) :
    chart ∈ ids ∧ s.shared.receives chart = true :=
  List.mem_filter.1 ((List.takeWhile_prefix _).subset h)

/-- If no chart refuses, every chart that follows the shared filters is served. -/
theorem mem_served_of_live {ids : List Uuid} (h : ∀ id ∈ ids, s.accepts id = true)
    (hmem : chart ∈ ids) (hreceives : s.shared.receives chart = true) : chart ∈ s.served ids := by
  induction ids with
  | nil => cases hmem
  | cons id rest ih =>
    have hrest := ih fun other hother => h other (List.mem_cons_of_mem id hother)
    cases hid : s.shared.receives id with
    | false =>
      rw [served_of_not_receives hid]
      refine hrest ((List.mem_cons.1 hmem).resolve_left ?_)
      rintro rfl
      rw [hid] at hreceives
      cases hreceives
    | true =>
      rw [served_of_accepts hid (h id List.mem_cons_self), List.mem_cons]
      exact (List.mem_cons.1 hmem).imp_right hrest

/-- Whom new filters are given to depends on the charts themselves only. -/
theorem served_congr {ids : List Uuid} (hshared : s.shared = t.shared)
    (hcharts : ∀ id ∈ ids, s.charts.get? id = t.charts.get? id) : s.served ids = t.served ids := by
  induction ids with
  | nil => rfl
  | cons id rest ih =>
    have hrest := ih fun other hother => hcharts other (List.mem_cons_of_mem id hother)
    have haccepts : s.accepts id = t.accepts id := by
      rw [accepts, accepts, hcharts id List.mem_cons_self]
    cases hid : s.shared.receives id with
    | false =>
      rw [served_of_not_receives hid, served_of_not_receives (hshared ▸ hid), hrest]
    | true =>
      cases ha : s.accepts id with
      | false =>
        rw [served_of_not_accepts hid ha, served_of_not_accepts (hshared ▸ hid) (haccepts ▸ ha)]
      | true =>
        rw [served_of_accepts hid ha, served_of_accepts (hshared ▸ hid) (haccepts ▸ ha), hrest]

/-- Some charts have been given filters, and nothing else has happened. -/
structure Delivered (filters : FilterSet) (ids : List Uuid) (s t : Session) : Prop where
  /-- Only charts differ. -/
  frame : t = { s with charts := t.charts }
  /-- All charts are there, in their order. -/
  keys : t.charts.keys = s.charts.keys
  /-- Those charts have the filters, and the others are as they were. -/
  charts : ∀ id, t.charts.get? id =
    if id ∈ ids then (s.charts.get? id).map (ChartView.given filters) else s.charts.get? id

/-- Without charts to be served the session stays as it is. -/
theorem delivered_refl (filters : FilterSet) (s : Session) : Delivered filters [] s s where
  frame := rfl
  keys := rfl
  charts _ := (if_neg List.not_mem_nil).symm

/-- One chart has been given the filters before the others. -/
theorem delivered_cons {ids : List Uuid} (hchart : s.charts.get? chart = some v)
    (hnew : chart ∉ ids) (h : Delivered filters ids (s.put chart (v.given filters)) t) :
    Delivered filters (chart :: ids) s t where
  frame := h.frame
  keys := h.keys.trans (keys_put hchart _)
  charts id := by
    rw [h.charts, get?_put]
    by_cases hid : id = chart
    · subst hid
      rw [if_neg hnew, if_pos rfl, if_pos List.mem_cons_self, hchart]
      rfl
    · simp only [List.mem_cons, hid, false_or, if_false]

/-- A chart that is not there is given nothing. -/
theorem delivered_cons_of_absent {ids : List Uuid} (hchart : s.charts.get? chart = none)
    (h : Delivered filters ids s t) : Delivered filters (chart :: ids) s t where
  frame := h.frame
  keys := h.keys
  charts id := by
    rw [h.charts]
    by_cases hid : id = chart
    · subst hid
      rw [hchart, Option.map_none, ite_self, ite_self]
    · simp only [List.mem_cons, hid, false_or]

/-- What one chart makes of a delivery: it is passed over, it refuses, or it is given the filters
and the delivery goes on. -/
theorem deliver_cons_cases (filters : FilterSet) (s : Session) (chart : Uuid) (rest : List Uuid) :
    (s.shared.receives chart = false ∨ s.charts.get? chart = none) ∧
      deliver filters (chart :: rest) s = deliver filters rest s ∨
    (∃ v refusal, s.shared.receives chart = true ∧ s.charts.get? chart = some v ∧
      v.refusal? = some refusal ∧
      (deliver filters (chart :: rest) s).state = s ∧
      (deliver filters (chart :: rest) s).answer = .error refusal) ∨
    ∃ v, s.shared.receives chart = true ∧ s.charts.get? chart = some v ∧ v.refusal? = none ∧
      (deliver filters (chart :: rest) s).state =
        (deliver filters rest (s.put chart (v.given filters))).state ∧
      (deliver filters (chart :: rest) s).answer =
        (deliver filters rest (s.put chart (v.given filters))).answer := by
  cases hreceives : s.shared.receives chart with
  | false => exact .inl ⟨.inl rfl, by rw [deliver, if_neg (by rw [hreceives]; simp)]⟩
  | true =>
    cases hchart : s.charts.get? chart with
    | none => exact .inl ⟨.inr rfl, by rw [deliver, if_pos hreceives, onChart?, hchart]; rfl⟩
    | some v =>
      have hdeliver : deliver filters (chart :: rest) s =
          ((v.setFilters filters).within (s.put chart)).andThen
            fun s _ => deliver filters rest s := by
        rw [deliver, if_pos hreceives, onChart?, hchart]
        rfl
      cases hrefusal : v.refusal? with
      | some refusal =>
        have hrefused : v.setFilters filters = .refused v refusal :=
          ChartView.whenLive_of_refusal hrefusal _
        refine .inr (.inl ⟨v, refusal, rfl, rfl, hrefusal, ?_⟩)
        rw [hdeliver, hrefused]
        exact ⟨put_self hchart, rfl⟩
      | none =>
        obtain ⟨hstate, hanswer⟩ := ChartView.setFilters_of_live hrefusal filters
        refine .inr (.inr ⟨v, rfl, rfl, hrefusal, ?_⟩)
        rw [hdeliver, ← hstate]
        exact Turn.andThen_of_ok _ hanswer

/-- What a delivery leaves: the charts that are served have the filters. -/
theorem deliver_delivered (filters : FilterSet) {ids : List Uuid} (h : ids.Nodup) (s : Session) :
    Delivered filters (s.served ids) s (deliver filters ids s).state := by
  induction ids generalizing s with
  | nil => exact delivered_refl filters s
  | cons chart rest ih =>
    obtain ⟨hnew, hrest⟩ := List.nodup_cons.1 h
    rcases deliver_cons_cases filters s chart rest with
      ⟨hpassed, hdeliver⟩ | ⟨v, refusal, hreceives, hchart, hrefusal, hstate, -⟩ |
      ⟨v, hreceives, hchart, hlive, hstate, -⟩
    · rw [hdeliver]
      cases hreceives : s.shared.receives chart with
      | false =>
        rw [served_of_not_receives hreceives]
        exact ih hrest s
      | true =>
        have habsent : s.charts.get? chart = none :=
          hpassed.resolve_left (by rw [hreceives]; exact Bool.noConfusion)
        have haccepts : s.accepts chart = true := by rw [accepts, habsent]; rfl
        rw [served_of_accepts hreceives haccepts]
        exact delivered_cons_of_absent habsent (ih hrest s)
    · have haccepts : s.accepts chart = false := by
        rw [accepts, hchart, Option.all_some, hrefusal]
        rfl
      -- The delivery ends here, whoever comes after.
      rw [served_of_not_accepts hreceives haccepts, hstate]
      exact delivered_refl filters s
    · have haccepts : s.accepts chart = true := by
        rw [accepts, hchart, Option.all_some, hlive]
        rfl
      -- The identifiers are distinct, so the chart that has changed is not met again.
      have hserved : (s.put chart (v.given filters)).served rest = s.served rest := by
        refine served_congr rfl fun id hid => ?_
        rw [get?_put, if_neg]
        rintro rfl
        exact hnew hid
      rw [served_of_accepts hreceives haccepts, hstate, ← hserved]
      exact delivered_cons hchart (fun hmem => hnew (mem_of_mem_served hmem).1) (ih hrest _)

/-- A delivery is refused by a chart only. -/
theorem deliver_refused {ids : List Uuid} {refusal : Refusal} (h : ids.Nodup)
    (hanswer : (deliver filters ids s).answer = .error refusal) :
    ∃ id ∈ ids, ∃ v, s.charts.get? id = some v ∧ v.refusal? = some refusal := by
  induction ids generalizing s with
  | nil => cases hanswer
  | cons chart rest ih =>
    obtain ⟨hnew, hrest⟩ := List.nodup_cons.1 h
    rcases deliver_cons_cases filters s chart rest with
      ⟨-, hdeliver⟩ | ⟨v, refusal', -, hchart, hrefusal, -, hanswer'⟩ | ⟨v, -, -, -, -, hanswer'⟩
    · rw [hdeliver] at hanswer
      obtain ⟨id, hmem, hid⟩ := ih hrest hanswer
      exact ⟨id, List.mem_cons_of_mem chart hmem, hid⟩
    · rw [hanswer', Except.error.injEq] at hanswer
      subst hanswer
      exact ⟨chart, List.mem_cons_self, v, hchart, hrefusal⟩
    · rw [hanswer'] at hanswer
      obtain ⟨id, hmem, w, hw, hrefusal⟩ := ih hrest hanswer
      refine ⟨id, List.mem_cons_of_mem chart hmem, w, ?_, hrefusal⟩
      rw [get?_put, if_neg] at hw
      · exact hw
      · rintro rfl
        exact hnew hmem

/-! ## Calls that may change the shared filters -/

/-- The change that a selected point of a chart asks for: the chart is there, it may change the
filters, and it takes calls. -/
def selected? (s : Session) (chart : Uuid) (value : Value) : Option FilterDelta :=
  match s.charts.get? chart with
  | some v =>
    if s.shared.emits chart = true ∧ v.refusal? = none then v.spec.selection? value else none
  | none => none

/-- A selection comes from a chart that is there, takes calls, and passes its selections on. -/
theorem selected?_eq_some {value : Value} {delta : FilterDelta}
    (h : s.selected? chart value = some delta) :
    ∃ v, s.charts.get? chart = some v ∧ s.shared.emits chart = true ∧ v.refusal? = none ∧
      v.spec.selection? value = some delta := by
  unfold selected? at h
  split at h
  · next v hchart =>
    split at h
    · next hready => exact ⟨v, hchart, hready.1, hready.2, h⟩
    · cases h
  · cases h

/-- The shared filters that a call asks for; none if it selects a point and no change comes of
it. -/
def requested? (s : Session) : FilterCall → Option FilterSet
  | .set filters => some filters
  | .clear => some ∅
  | .select chart value =>
    (s.selected? chart value).map fun delta => s.shared.filters.merge s.policy delta

/-- The session with other shared filters, before they are delivered. -/
def withFilters (s : Session) (filters : FilterSet) : Session :=
  { s with shared := s.shared.setFilters filters }

/-- A call is refused by one of the charts. -/
def RefusedByChart (s : Session) (refusal : Refusal) : Prop :=
  ∃ chart v, s.charts.get? chart = some v ∧ v.refusal? = some refusal

/-- What a session makes of the change that a selected point asks for. -/
def merged (s : Session) : Option FilterDelta → Turn Session (Option FilterDelta)
  | none => .done s none
  | some delta => (s.applyDelta delta).andThen fun s _ => .done s (some delta)

/-- The selection of a chart that passes it on is merged into the shared filters. -/
theorem selectPoint_of_chart {value : Value} (hemits : s.shared.emits chart = true)
    (hchart : s.charts.get? chart = some v) :
    s.selectPoint chart value =
      ((v.selectPoint value).within (s.put chart)).andThen fun s selected => s.merged selected := by
  rw [selectPoint, if_pos hemits, onChart?, hchart, Option.map_some]
  refine congrArg (Turn.andThen _) (funext fun s => funext fun selected => ?_)
  cases selected <;> rfl

/-- A chart that takes calls is left as it is, and what it asks for is merged. -/
theorem selectPoint_of_live (value : Value) (hemits : s.shared.emits chart = true)
    (hchart : s.charts.get? chart = some v) (hlive : v.refusal? = none) :
    (s.selectPoint chart value).state = (s.merged (v.spec.selection? value)).state ∧
      (s.selectPoint chart value).answer = (s.merged (v.spec.selection? value)).answer := by
  have hstate : ((v.selectPoint value).within (s.put chart)).state = s := by
    rw [ChartView.selectPoint, ChartView.whenLive_of_live hlive]
    exact put_self hchart
  have hanswer : ((v.selectPoint value).within (s.put chart)).answer =
      .ok (v.spec.selection? value) := by
    rw [ChartView.selectPoint, ChartView.whenLive_of_live hlive]
    rfl
  have hnext := Turn.andThen_of_ok (fun s selected => s.merged selected) hanswer
  rwa [hstate, ← selectPoint_of_chart hemits hchart] at hnext

/-- A selected point of which no change comes leaves the session as it is. -/
theorem selectPoint_of_none {value : Value} (h : s.selected? chart value = none) :
    (s.selectPoint chart value).state = s ∧
      ∀ refusal,
        (s.selectPoint chart value).answer = .error refusal → s.RefusedByChart refusal := by
  cases hemits : s.shared.emits chart with
  | false =>
    rw [selectPoint, if_neg (by rw [hemits]; exact Bool.false_ne_true)]
    exact ⟨rfl, fun refusal hanswer => by cases hanswer⟩
  | true =>
    cases hchart : s.charts.get? chart with
    | none =>
      rw [selectPoint, if_pos hemits, onChart?, hchart]
      exact ⟨rfl, fun refusal hanswer => by cases hanswer⟩
    | some v =>
      cases hrefusal : v.refusal? with
      | some refusal =>
        rw [selectPoint_of_chart hemits hchart, ChartView.selectPoint,
          ChartView.whenLive_of_refusal hrefusal]
        refine ⟨put_self hchart, fun refusal' hanswer => ⟨chart, v, hchart, ?_⟩⟩
        cases hanswer
        exact hrefusal
      | none =>
        have hselection : v.spec.selection? value = none := by
          simpa only [selected?, hchart, hemits, hrefusal, and_self, if_true] using h
        obtain ⟨hstate, hanswer⟩ := selectPoint_of_live value hemits hchart hrefusal
        rw [hstate, hanswer, hselection]
        exact ⟨rfl, fun refusal hanswer => by cases hanswer⟩

/-- The change that a selected point asks for is merged and delivered. -/
theorem selectPoint_of_some {value : Value} {delta : FilterDelta}
    (h : s.selected? chart value = some delta) :
    (s.selectPoint chart value).state = (s.applyDelta delta).state ∧
      (s.selectPoint chart value).answer = (s.applyDelta delta).answer.map fun _ => some delta := by
  obtain ⟨v, hchart, hemits, hlive, hselection⟩ := selected?_eq_some h
  obtain ⟨hstate, hanswer⟩ := selectPoint_of_live value hemits hchart hlive
  rw [hstate, hanswer, hselection]
  exact Turn.andThen_done (s.applyDelta delta) fun _ => some delta

/-- A call that asks for no filters leaves the session as it is. -/
theorem changeFilters_of_none {call : FilterCall} (h : s.requested? call = none) :
    (s.changeFilters call).state = s ∧
      ∀ refusal, (s.changeFilters call).answer = .error refusal → s.RefusedByChart refusal := by
  cases call with
  | set filters => cases h
  | clear => cases h
  | select chart value => exact selectPoint_of_none (Option.map_eq_none_iff.1 h)

/-- A call that asks for filters makes them the shared ones and delivers them. It is refused exactly
if the delivery is. -/
theorem changeFilters_of_some {call : FilterCall} (h : s.requested? call = some filters) :
    (s.changeFilters call).state = (s.withFilters filters).propagate.state ∧
      ∀ refusal, (s.changeFilters call).answer = .error refusal ↔
        (s.withFilters filters).propagate.answer = .error refusal := by
  have hturn : ∃ reply : Unit → Option FilterDelta,
      (s.changeFilters call).state = (s.withFilters filters).propagate.state ∧
        (s.changeFilters call).answer = (s.withFilters filters).propagate.answer.map reply := by
    cases call with
    | set filters =>
      cases h
      exact ⟨fun _ => none, Turn.andThen_done _ fun _ => none⟩
    | clear =>
      cases h
      exact ⟨fun _ => none, Turn.andThen_done _ fun _ => none⟩
    | select chart value =>
      obtain ⟨delta, hselected, rfl⟩ := Option.map_eq_some_iff.1 h
      exact ⟨fun _ => some delta, selectPoint_of_some hselected⟩
  obtain ⟨reply, hstate, hanswer⟩ := hturn
  exact ⟨hstate, fun refusal => by rw [hanswer]; exact Outcome.map_eq_error⟩

/-- What a call leaves that asks for filters: the shared filters are those, and the charts that are
served have them. -/
theorem changeFilters_delivered {call : FilterCall} (h : s.requested? call = some filters) :
    Delivered filters (s.served s.charts.keys) (s.withFilters filters)
      (s.changeFilters call).state := by
  have hserved : s.served s.charts.keys = (s.withFilters filters).served s.charts.keys := rfl
  rw [(changeFilters_of_some h).1, hserved]
  exact deliver_delivered filters s.charts.nodup_keys (s.withFilters filters)

/-- After a call the shared filters are those that it asks for, or the old ones if it asks for
none. That some chart may have refused them makes no difference. -/
theorem changeFilters_filters (s : Session) (call : FilterCall) :
    (s.changeFilters call).state.shared.filters =
      (s.requested? call).getD s.shared.filters := by
  cases hrequested : s.requested? call with
  | none =>
    rw [(changeFilters_of_none hrequested).1]
    rfl
  | some filters =>
    rw [(changeFilters_delivered hrequested).frame]
    rfl

/-- A call that may change the shared filters is refused by a chart only. -/
theorem changeFilters_refused {call : FilterCall} {refusal : Refusal}
    (h : (s.changeFilters call).answer = .error refusal) : s.RefusedByChart refusal := by
  cases hrequested : s.requested? call with
  | none => exact (changeFilters_of_none hrequested).2 refusal h
  | some filters =>
    obtain ⟨chart, -, hchart⟩ := deliver_refused s.charts.nodup_keys
      (((changeFilters_of_some hrequested).2 refusal).1 h)
    exact ⟨chart, hchart⟩

end Session

end Chartboard
