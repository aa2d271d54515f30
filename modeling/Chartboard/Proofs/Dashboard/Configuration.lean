import Chartboard.Proofs.Dashboard.KeptOut
import Chartboard.Proofs.Query.Compilation
import Chartboard.Proofs.Render.Truncation
import Mathlib.Data.List.DropRight

/-!
# Limits and display caps of charts

The host of a dashboard gives it limits for requests and a cap for tables, and every chart is added
with those that were last given. They are copied, and nothing hands later ones to a chart that is
there. The charts of a document are added before anything can be given, so they are left with the
defaults for good.
-/

namespace Chartboard

open Outcome

/-! ## What a session is given -/

/-- The limits of requests and the cap of tables. -/
structure Settings where
  /-- The limits that requests carry. -/
  limits : QueryLimits := {}
  /-- The number of rows that a table shows. -/
  displayCap : Nat := RenderModel.defaultDisplayCap

/-- The limits that a call gives to the session. -/
def SessionCall.limits? : SessionCall → Option QueryLimits
  | .configure (.limits limits) => some limits
  | _ => none

/-- The display cap that a call gives to the session. -/
def SessionCall.displayCap? : SessionCall → Option Nat
  | .configure (.displayCap cap) => some cap
  | _ => none

namespace Settings

/-- The settings after a call that may give others. -/
def updated (x : Settings) (call : SessionCall) : Settings where
  limits := call.limits?.getD x.limits
  displayCap := call.displayCap?.getD x.displayCap

/-- What has most recently been given by some calls, and the defaults of what has not. -/
def given (calls : List SessionCall) : Settings where
  limits := (calls.reverse.findSome? SessionCall.limits?).getD {}
  displayCap :=
    (calls.reverse.findSome? SessionCall.displayCap?).getD RenderModel.defaultDisplayCap

/-- One more call adds what it gives to the settings of the session. -/
theorem given_concat (calls : List SessionCall) (call : SessionCall) :
    given (calls ++ [call]) = (given calls).updated call := by
  unfold given updated
  rw [List.reverse_concat, List.findSome?_cons, List.findSome?_cons]
  cases call.limits? with
  | none =>
    cases call.displayCap? with
    | none => rfl
    | some cap => rfl
  | some limits =>
    cases call.displayCap? with
    | none => rfl
    | some cap => rfl

end Settings

/-- The settings of a chart. -/
def ChartView.settings (v : ChartView) : Settings :=
  ⟨v.limits, v.displayCap⟩

/-- Views that are alike have the same settings. -/
theorem ChartView.Alike.settings {w v : ChartView} (h : w.Alike v) : w.settings = v.settings := by
  unfold ChartView.settings
  rw [h.limits, h.displayCap]

/-- New filters leave the settings of a chart as they are. -/
theorem ChartView.settings_given (filters : FilterSet) (v : ChartView) :
    (v.given filters).settings = v.settings := by
  rw [ChartView.given]
  split
  · rfl
  · rw [markStale_eq]
    rfl

/-! ## What settings decide -/

/-- Two limits lead to the same request exactly if they are the same for the kind of chart. -/
theorem Spec.compile_eq_ok_iff_limitOf {s : Spec} {limits other : QueryLimits}
    {filters : FilterSet} {request : Request} (h : s.compile limits filters = .ok request) :
    s.compile other filters = .ok request ↔ s.limitOf limits = s.limitOf other := by
  rw [s.compile_eq_map limits filters, map_eq_ok] at h
  obtain ⟨base, hbase, rfl⟩ := h
  rw [s.compile_eq_map other filters, hbase]
  constructor
  · intro heq
    exact (congrArg Request.limit (Except.ok.inj heq)).symm
  · intro hlimit
    rw [hlimit]
    rfl

/-- Only tables are drawn with a display cap. -/
theorem RenderModel.ofResponse_of_not_table {kind : ChartKind} (h : kind ≠ .table)
    (cap other : Nat) (s : Spec) (response : Response) :
    ofResponse cap kind s response = ofResponse other kind s response := by
  unfold ofResponse
  cases kind with
  | table => exact absurd rfl h
  | _ => rfl

/-- Two display caps lead to the same table exactly if it shows as many rows. -/
theorem Response.toTable_eq_iff (cap other : Nat) (r : Response) :
    r.toTable cap = r.toTable other ↔ min cap r.rows.length = min other r.rows.length := by
  rw [← List.take_eq_take_iff]
  constructor
  · intro h
    exact congrArg TableModel.rows h
  · intro h
    rw [toTable, toTable, h]

/-- Two display caps lead to the same model exactly if a table shows as many rows. -/
theorem ChartView.draw_eq_iff (v : ChartView) (cap other : Nat) (response : Response) :
    { v with displayCap := cap }.draw response = { v with displayCap := other }.draw response ↔
      (v.spec.kind = .table →
        min cap response.rows.length = min other response.rows.length) := by
  unfold draw
  by_cases htable : v.spec.kind = .table
  · by_cases hnone : response.rows = []
    · rw [RenderModel.ofResponse_of_isEmpty _ _ _ hnone,
        RenderModel.ofResponse_of_isEmpty _ _ _ hnone, hnone]
      simp
    · have hdrawn : ∀ cap, RenderModel.ofResponse cap v.spec.kind v.spec response =
          .ok (.table (response.toTable cap)) := by
        intro cap
        rw [htable]
        exact RenderModel.ofResponse_table cap v.spec hnone
      simp only [hdrawn]
      rw [forall_prop_of_true htable, ← Response.toTable_eq_iff]
      exact ⟨RenderModel.table.inj, congrArg RenderModel.table⟩
  · rw [RenderModel.ofResponse_of_not_table htable cap other]
    exact iff_of_true rfl fun h => absurd h htable

namespace ChartView

variable {v : ChartView}

/-- A response that is taken is drawn with the display cap of the chart. -/
theorem render_of_complete {generation : Nat} {response : Response}
    (h : (v.complete generation (.ok response)).answer = .ok true) :
    (v.complete generation (.ok response)).state.render = some (v.draw response) := by
  refine whenLive_induction (motive := fun turn => turn.answer = .ok true →
    turn.state.render = some (v.draw response)) (fun refusal hrefused => ?_)
    (fun _ hlive => ?_) h
  · cases hrefused
  · split at hlive
    · rename_i hwaits
      rw [if_pos hwaits]
    · cases hlive

end ChartView

namespace Session

/-- The settings for charts that are added. -/
def settings (s : Session) : Settings :=
  ⟨s.limits, s.displayCap⟩

/-! ## What one call does to settings -/

/-- The settings of a session have been kept, and those of all charts that are left. -/
structure KeepsSettings (s t : Session) : Prop where
  /-- The session has the same settings. -/
  settings : t.settings = s.settings
  /-- Every chart was there and had the same settings. -/
  charts : ∀ chart v, t.charts.get? chart = some v →
    ∃ u, s.charts.get? chart = some u ∧ v.settings = u.settings

variable {s t u : Session}

/-- A session that has not changed has kept its settings. -/
theorem keepsSettings_refl (s : Session) : s.KeepsSettings s :=
  ⟨rfl, fun _ v h => ⟨v, h, rfl⟩⟩

/-- What is kept first and then kept further has been kept. -/
theorem KeepsSettings.trans (hst : s.KeepsSettings t) (htu : t.KeepsSettings u) :
    s.KeepsSettings u where
  settings := htu.settings.trans hst.settings
  charts chart v h := by
    obtain ⟨w, hw, hvw⟩ := htu.charts chart v h
    obtain ⟨x, hx, hwx⟩ := hst.charts chart w hw
    exact ⟨x, hx, hvw.trans hwx⟩

/-- No call on a chart changes settings. -/
theorem keepsSettings_onChart (s : Session) (chart : Uuid) (call : ViewCall) :
    s.KeepsSettings (s.left (.onChart chart call)) := by
  cases hchart : s.charts.get? chart with
  | none =>
    rw [left_onChart_of_none hchart]
    exact keepsSettings_refl s
  | some v =>
    rw [left_onChart hchart]
    refine ⟨rfl, fun other w hw => ?_⟩
    rw [get?_put] at hw
    split at hw
    · next hsame =>
      subst hsame
      cases hw
      exact ⟨v, hchart, (ChartView.alike_step (v.perform_effect call)).settings⟩
    · exact ⟨w, hw, rfl⟩

/-- Removing a chart leaves the settings of the others as they are. -/
theorem keepsSettings_removeChart (s : Session) (chart : Uuid) :
    s.KeepsSettings (s.removeChart chart).2 := by
  unfold removeChart
  split
  · exact keepsSettings_refl s
  · refine ⟨rfl, fun other w hw => ?_⟩
    simp only [Ledger.get?_erase] at hw
    split at hw
    · cases hw
    · exact ⟨w, hw, rfl⟩

/-- New filters leave all settings as they are. -/
theorem keepsSettings_changeFilters (s : Session) (call : FilterCall) :
    s.KeepsSettings (s.changeFilters call).state := by
  cases hrequested : s.requested? call with
  | none =>
    rw [(changeFilters_of_none hrequested).1]
    exact keepsSettings_refl s
  | some filters =>
    have hdelivered := changeFilters_delivered hrequested
    refine ⟨?_, fun chart v hv => ?_⟩
    · rw [hdelivered.frame]
      rfl
    · rw [hdelivered.charts] at hv
      split at hv
      · obtain ⟨w, hw, rfl⟩ := Option.map_eq_some_iff.1 hv
        exact ⟨w, hw, w.settings_given filters⟩
      · exact ⟨v, hv, rfl⟩

/-- A refresh leaves all settings as they are, whatever the executor does. -/
theorem keepsSettings_refreshAll {ε : Type} (s : Session) (execute : Executor ε) (env : ε) :
    s.KeepsSettings (s.left (.refreshAll execute env)) := by
  -- To refresh a dashboard is to poll and to complete its charts, one after the other.
  obtain ⟨calls, hcalls, hleft⟩ := refreshAll_eq_after execute env s
  rw [hleft]
  refine after_induction (motive := fun t => s.KeepsSettings t) (fun call => call.isQuery = true)
    (fun t call hquery ht => ?_) (keepsSettings_refl s) hcalls
  unfold SessionCall.isQuery at hquery
  split at hquery
  · exact ht.trans (keepsSettings_onChart t _ _)
  · exact ht.trans (keepsSettings_onChart t _ _)
  · cases hquery

/-- What a call does to settings: the session has those that the call gives, a chart that it adds
takes over those that the session had, and every other chart keeps its own. -/
structure SettingsStep (s : Session) (call : SessionCall) (t : Session) : Prop where
  /-- The session has what the call gives and keeps the rest. -/
  settings : t.settings = s.settings.updated call
  /-- Only an added chart takes over the settings of the session. -/
  charts : ∀ chart v, t.charts.get? chart = some v →
    if call.added? = some chart then v.settings = s.settings
    else ∃ u, s.charts.get? chart = some u ∧ v.settings = u.settings

/-- A call that gives and adds nothing keeps all settings. -/
theorem KeepsSettings.step (h : s.KeepsSettings t) {call : SessionCall}
    (hadded : call.added? = none) (hlimits : call.limits? = none)
    (hcap : call.displayCap? = none) : s.SettingsStep call t where
  settings := by
    rw [h.settings, Settings.updated, hlimits, hcap]
    rfl
  charts chart v hv := by
    rw [hadded, if_neg (Option.some_ne_none chart).symm]
    exact h.charts chart v hv

/-- A session option changes the settings of the session, and those of the charts do not follow. -/
theorem settings_configure (s : Session) (option : SessionOption) :
    s.SettingsStep (.configure option) (s.configure option) := by
  cases option with
  | _ => exact ⟨rfl, fun _ v hv => ⟨v, hv, rfl⟩⟩

/-- An added chart takes over the settings of the session. -/
theorem settings_withChart (s : Session) (chart : Uuid) (persisted : Option Spec)
    (participation : Participation) :
    s.SettingsStep (.addChart chart persisted participation)
      (s.withChart chart persisted participation) where
  settings := rfl
  charts other v hv := by
    rw [withChart, Ledger.get?_insert] at hv
    split at hv
    · next hsame =>
      subst hsame
      cases hv
      rw [SessionCall.added?, if_pos rfl]
      rfl
    · next hother =>
      rw [SessionCall.added?, if_neg fun heq => hother (Option.some.inj heq).symm]
      exact ⟨v, hv, rfl⟩

/-- Every call does to settings what is said of it. -/
theorem settings_left (s : Session) (call : SessionCall) : s.SettingsStep call (s.left call) := by
  cases call with
  | configure option => exact settings_configure s option
  | setId id =>
    have hkeeps : s.KeepsSettings (s.left (.setId id)) := ⟨rfl, fun _ v hv => ⟨v, hv, rfl⟩⟩
    exact hkeeps.step rfl rfl rfl
  | addChart chart persisted participation =>
    rw [left, addChart_eq]
    exact settings_withChart s chart persisted participation
  | removeChart chart => exact (keepsSettings_removeChart s chart).step rfl rfl rfl
  | changeFilters call => exact (keepsSettings_changeFilters s call).step rfl rfl rfl
  | refreshAll execute env => exact (keepsSettings_refreshAll s execute env).step rfl rfl rfl
  | onChart chart call => exact (keepsSettings_onChart s chart call).step rfl rfl rfl

/-! ## Settings along a history -/

/-- The calls up to the last one that adds a chart, and none if the chart came with a document. -/
def upToAdded (chart : Uuid) (calls : List SessionCall) : List SessionCall :=
  calls.rdropWhile fun call => call.added? ≠ some chart

/-- The session and all its charts have the default settings. -/
def HasDefaults (s : Session) : Prop :=
  s.settings = {} ∧ ∀ chart v, s.charts.get? chart = some v → v.settings = {}

/-- A session with the default settings and without charts has defaults throughout. -/
theorem hasDefaults_of_noCharts (hsettings : s.settings = {}) (hcharts : s.charts = ∅) :
    s.HasDefaults := by
  refine ⟨hsettings, fun chart v hv => ?_⟩
  rw [hcharts] at hv
  cases hv

/-- However a session begins, nothing has been given to it yet. -/
theorem hasDefaults_start (start : SessionStart) : start.session.HasDefaults := by
  cases start with
  | empty name datasetId catalog => exact hasDefaults_of_noCharts rfl rfl
  | document identify d catalog =>
    refine (addCharts_induction (motive := HasDefaults) identify (fun s chart spec h => ?_) ?_ 0
      d.charts).2
    · refine ⟨h.1, fun other v hv => ?_⟩
      have hadded := (settings_withChart s chart (some spec) {}).charts other v hv
      split at hadded
      · exact hadded.trans h.1
      · obtain ⟨u, hu, hsettings⟩ := hadded
        exact hsettings.trans (h.2 other u hu)
    · exact hasDefaults_of_noCharts rfl rfl

/-- A session has what has most recently been given to it, and every chart what had most recently
been given when it was added. -/
theorem settings_after (start : SessionStart) (calls : List SessionCall) :
    (start.session.after calls).settings = Settings.given calls ∧
      ∀ chart v, (start.session.after calls).charts.get? chart = some v →
        v.settings = Settings.given (upToAdded chart calls) := by
  induction calls using List.reverseRecOn with
  | nil => exact hasDefaults_start start
  | append_singleton calls call ih =>
    rw [after_append]
    have hstep : (start.session.after calls).SettingsStep call
        ((start.session.after calls).after [call]) := settings_left _ call
    refine ⟨?_, fun chart v hv => ?_⟩
    · rw [hstep.settings, ih.1, Settings.given_concat]
    · have hsettings := hstep.charts chart v hv
      by_cases hadded : call.added? = some chart
      · rw [if_pos hadded] at hsettings
        have hupto : upToAdded chart (calls ++ [call]) = calls ++ [call] :=
          List.rdropWhile_concat_neg _ _ _ (by simp [hadded])
        -- A call that adds a chart gives nothing, so it may count as one before the chart.
        have hgives : (Settings.given calls).updated call = Settings.given calls := by
          cases call with
          | addChart other persisted participation => rfl
          | _ => cases hadded
        rw [hsettings, ih.1, hupto, Settings.given_concat, hgives]
      · rw [if_neg hadded] at hsettings
        obtain ⟨u, hu, hkept⟩ := hsettings
        have hupto : upToAdded chart (calls ++ [call]) = upToAdded chart calls :=
          List.rdropWhile_concat_pos _ _ _ (decide_eq_true hadded)
        rw [hkept, ih.2 chart u hu, hupto]

/-- However a session begins and whatever is called, every chart keeps the settings that had most
recently been given to the session when the chart was added. It sends its requests with these
limits, and what it would send with those given last is the same exactly if the limit of its kind
is. It draws with this display cap, and what it would draw with the one given last is the same
exactly if it is no table or shows as many rows. -/
theorem charts_keep_settings (start : SessionStart) (calls : List SessionCall) :
    let s := start.session.after calls
    let last := Settings.given calls
    s.settings = last ∧
    ∀ chart v, s.charts.get? chart = some v →
      let own := Settings.given (upToAdded chart calls)
      v.settings = own ∧
      (∀ pending, v.poll.answer = .ok (some pending) →
        v.spec.compile own.limits v.filters = .ok pending.request ∧
        (v.spec.compile last.limits v.filters = .ok pending.request ↔
          v.spec.limitOf own.limits = v.spec.limitOf last.limits)) ∧
      ∀ generation response, (v.complete generation (.ok response)).answer = .ok true →
        (v.complete generation (.ok response)).state.render =
          some ({ v with displayCap := own.displayCap }.draw response) ∧
        ((v.complete generation (.ok response)).state.render =
          some ({ v with displayCap := last.displayCap }.draw response) ↔
            (v.spec.kind = .table →
              min own.displayCap response.rows.length =
                min last.displayCap response.rows.length)) := by
  intro s last
  obtain ⟨hsession, hcharts⟩ := settings_after start calls
  refine ⟨hsession, fun chart v hv => ?_⟩
  intro own
  have hsettings : v.settings = own := hcharts chart v hv
  have hlimits : v.limits = own.limits := congrArg Settings.limits hsettings
  have hcap : { v with displayCap := own.displayCap } = v := by
    rw [← hsettings]
    rfl
  refine ⟨hsettings, fun pending hpolled => ?_, fun generation response htaken => ?_⟩
  · have hrequest := ChartView.request_of_poll hpolled
    rw [hlimits] at hrequest
    exact ⟨hrequest, Spec.compile_eq_ok_iff_limitOf hrequest⟩
  · rw [ChartView.render_of_complete htaken, ← v.draw_eq_iff, hcap]
    exact ⟨rfl, Option.some_inj⟩

/-- The orders of each region. -/
def orderBars : Spec where
  groupBy := some "region"
  valueColumn := some "region"
  aggregation := .count

/-- A chart that is added between two changes of the limits. -/
def addedBetween : List SessionCall :=
  [.configure (.limits { rows := 2 }), .addChart (Uuid.ofNat 1) (some orderBars) {},
    .configure (.limits { rows := 3 })]

/-- The chart keeps the limit that the session had when the chart was added. -/
theorem charts_keep_settings_addedBetween :
    let s := (SessionStart.empty "Orders" "orders.csv" {}).session.after addedBetween
    s.settings.limits.rows = 3 ∧
    ∃ v pending, s.charts.get? (Uuid.ofNat 1) = some v ∧ v.poll.answer = .ok (some pending) ∧
      pending.request.limit = 2 ∧
      v.spec.compile { rows := 2 } v.filters = .ok pending.request ∧
      v.spec.compile { rows := 3 } v.filters ≠ .ok pending.request := by
  intro s
  obtain ⟨hsession, hcharts⟩ :=
    charts_keep_settings (.empty "Orders" "orders.csv" {}) addedBetween
  refine ⟨congrArg (fun x => x.limits.rows) hsession, _, _, rfl, rfl, rfl, ?_⟩
  obtain ⟨-, hpolled, -⟩ := hcharts (Uuid.ofNat 1) _ rfl
  obtain ⟨hown, hlast⟩ := hpolled _ rfl
  exact ⟨hown, fun heq => absurd (hlast.1 heq) (by decide)⟩

/-- A dashboard with the orders as bars and as a table. -/
def orderDocument : Document where
  name := "Orders"
  datasetId := "orders.csv"
  charts := [orderBars, { orderBars with kind := .table }]

/-- One row is enough for every request and every table. -/
def oneRow : List SessionCall :=
  [.configure (.limits { rows := 1 }), .configure (.displayCap 1)]

/-- The orders of two regions. -/
def orderResponse : Response where
  rows := [.ofList [("region", .string "East"), ("region_count", .int 2)],
    .ofList [("region", .string "West"), ("region_count", .int 1)]]

/-- The charts of a document do without what is given to the session that opens it. -/
theorem orderDocument_keeps_defaults :
    let s := (SessionStart.document Uuid.ofNat orderDocument {}).session.after oneRow
    s.settings.limits.rows = 1 ∧ s.settings.displayCap = 1 ∧
    (∃ v pending, s.charts.get? (Uuid.ofNat 0) = some v ∧
      v.poll.answer = .ok (some pending) ∧ pending.request.limit = 1000 ∧
      v.spec.compile s.settings.limits v.filters ≠ .ok pending.request) ∧
    ∃ v, s.charts.get? (Uuid.ofNat 1) = some v ∧
      (v.poll.state.complete 1 (.ok orderResponse)).answer = .ok true ∧
      (v.poll.state.complete 1 (.ok orderResponse)).state.render =
        some (.table (orderResponse.toTable 100)) ∧
      orderResponse.toTable 100 ≠ orderResponse.toTable 1 := by
  intro s
  refine ⟨rfl, rfl, ⟨_, _, rfl, rfl, rfl, fun heq => ?_⟩, _, rfl, rfl, rfl, fun heq => ?_⟩
  · have hlimit := congrArg (fun r => r.toOption.map Request.limit) heq
    exact absurd hlimit (by decide)
  · have hlength := congrArg (fun m => m.rows.length) heq
    exact absurd hlength (by decide)

end Session

end Chartboard
