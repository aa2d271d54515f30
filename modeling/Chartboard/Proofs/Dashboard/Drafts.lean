import Chartboard.Proofs.Dashboard.Delivery
import Chartboard.Proofs.View.Specification

/-!
# Drafts of documents

A draft is a document that is worked on. It knows of every chart the sheet and whether its selected
points change the filters, and nothing of queries, answers and what is drawn. Every call on a
session shows on the draft of the session as if it had been made on the draft alone, so the document
of a session is the one that it was opened with, changed by the calls.
-/

namespace Chartboard

open Json (Value)

/-! ## Drafts -/

/-- A chart of a draft. -/
structure DraftChart where
  /-- The identifier of the chart. -/
  id : Uuid
  /-- The specification and what decides about its changes. -/
  sheet : Sheet
  /-- Selected points of the chart change the filters. -/
  emits : Bool

/-- The chart after a call on the chart of an identifier, which may be another one. -/
def DraftChart.take (c : DraftChart) (chart : Uuid) (call : ViewCall) : DraftChart :=
  if c.id = chart then { c with sheet := c.sheet.take call } else c

/-- A document that is worked on. -/
structure Draft where
  /-- The identifier under which the document is stored, once it is. -/
  id : Option Uuid
  /-- The name that users see. -/
  name : String
  /-- The data set that the charts query. -/
  datasetId : String
  /-- The layout; null if there is none. -/
  layout : Value
  /-- The filters that the charts share. -/
  filters : FilterSet
  /-- How selected points are merged into the filters. -/
  policy : MergePolicy
  /-- The charts in their order. -/
  charts : List DraftChart

/-- The sheet of a chart that is added, with a kept specification if there is one. -/
def Sheet.ofKept (persisted : Option Spec) : Sheet where
  spec := persisted.getD {}
  settled := persisted.isSome
  stage := .mounted

namespace Draft

/-- The draft of a document that is opened. The charts get the identifiers of their numbers. -/
def ofDocument (identify : Nat → Uuid) (d : Document) : Draft where
  id := d.id
  name := d.name
  datasetId := d.datasetId
  layout := d.layout
  filters := d.filters
  policy := .replace
  charts := d.charts.zipIdx.map fun (spec, number) =>
    ⟨identify number, Sheet.ofKept (some spec), true⟩

/-- The document that is kept of a draft. -/
def toDocument (d : Draft) : Document where
  id := d.id
  name := d.name
  datasetId := d.datasetId
  filters := d.filters
  charts := d.charts.map (·.sheet.spec)
  layout := d.layout

/-- The identifiers of the charts. -/
def ids (d : Draft) : List Uuid :=
  d.charts.map (·.id)

/-- The change that a selected point of a chart asks for. -/
def selected? (d : Draft) (chart : Uuid) (value : Value) : Option FilterDelta :=
  (d.charts.find? fun c => c.id = chart).bind fun c =>
    if c.emits = true ∧ c.sheet.stage = .mounted then c.sheet.spec.selection? value else none

/-- The filters after a call that may change them. -/
def refilter (d : Draft) : FilterCall → FilterSet
  | .set filters => filters
  | .clear => ∅
  | .select chart value => (d.selected? chart value).elim d.filters (d.filters.merge d.policy)

/-- The draft after a call. -/
def take (d : Draft) : SessionCall → Draft
  | .configure (.policy policy) => { d with policy }
  | .configure _ => d
  | .setId id => { d with id := some id }
  | .addChart chart persisted participation =>
    { d with charts := d.charts ++ [⟨chart, Sheet.ofKept persisted, participation.emits⟩] }
  | .removeChart chart => { d with charts := d.charts.filter fun c => c.id ≠ chart }
  | .changeFilters call => { d with filters := d.refilter call }
  | .refreshAll _ _ => d
  | .onChart chart call => { d with charts := d.charts.map fun c => c.take chart call }

/-- The draft after some calls, made one after the other. -/
def after (d : Draft) (calls : List SessionCall) : Draft :=
  calls.foldl take d

end Draft

/-- The identifier under which a call adds a chart. -/
def SessionCall.added? : SessionCall → Option Uuid
  | .addChart chart _ _ => some chart
  | _ => none

/-- The call does nothing but have charts queried or bring them answers. -/
def SessionCall.runsCharts : SessionCall → Bool
  | .refreshAll _ _ => true
  | call => call.isQuery

namespace Draft

/-- Running charts does not touch a draft. -/
theorem take_of_runsCharts {d : Draft} {call : SessionCall} (h : call.runsCharts = true) :
    d.take call = d := by
  cases call with
  | refreshAll execute env => rfl
  | onChart chart call =>
    have hcharts : (d.charts.map fun c => c.take chart call) = d.charts := by
      refine (List.map_congr_left fun c _ => ?_).trans (List.map_id' d.charts)
      rw [DraftChart.take]
      cases call with
      | poll => exact ite_self c
      | complete generation result => exact ite_self c
      | _ => cases h
    rw [take, hcharts]
  | _ => cases h

/-- The calls that run charts may as well be left out. -/
theorem after_filter_runsCharts (d : Draft) (calls : List SessionCall) :
    d.after (calls.filter fun call => !call.runsCharts) = d.after calls := by
  induction calls generalizing d with
  | nil => rfl
  | cons call rest ih =>
    cases hcall : call.runsCharts with
    | true =>
      rw [List.filter_cons_of_neg (by simp [hcall]), ih, after, after, List.foldl_cons,
        take_of_runsCharts hcall]
    | false =>
      rw [List.filter_cons_of_pos (by simp [hcall])]
      exact ih (d.take call)

/-- No call brings a chart but one that adds it. -/
theorem ids_take (d : Draft) (call : SessionCall) :
    (d.take call).ids.Sublist (d.ids ++ call.added?.toList) := by
  have hold : d.ids.Sublist (d.ids ++ call.added?.toList) := List.sublist_append_left _ _
  cases call with
  | configure option =>
    cases option with
    | _ => exact hold
  | setId id => exact hold
  | addChart chart persisted participation =>
    have hids : (d.take (.addChart chart persisted participation)).ids = d.ids ++ [chart] :=
      List.map_append
    rw [hids]
    exact List.Sublist.refl _
  | removeChart chart => exact (List.filter_sublist.map _).trans hold
  | changeFilters call => exact hold
  | refreshAll execute env => exact hold
  | onChart chart call =>
    have hids : (d.take (.onChart chart call)).ids = d.ids := by
      rw [ids, take, List.map_map]
      refine List.map_congr_left fun c _ => ?_
      rw [Function.comp_apply, DraftChart.take]
      split
      · rfl
      · rfl
    rw [hids]
    exact hold

end Draft

/-! ## The draft of a session -/

/-- New filters do not show on the sheet of a chart. -/
theorem ChartView.sheet_given (filters : FilterSet) (v : ChartView) :
    (v.given filters).sheet = v.sheet := by
  rw [ChartView.given]
  split
  · rfl
  · exact ChartView.sheet_markStale { v with filters }

namespace Session

/-- A chart of a session as its draft knows it. -/
def draftChart (s : Session) (id : Uuid) (v : ChartView) : DraftChart :=
  ⟨id, v.sheet, s.shared.emits id⟩

/-- The charts of a session as its draft knows them. -/
def draftCharts (s : Session) : List DraftChart :=
  s.charts.entries.map fun entry => s.draftChart entry.1 entry.2

/-- The draft of a session as it is now. -/
def draft (s : Session) : Draft where
  id := s.id
  name := s.name
  datasetId := s.datasetId
  layout := s.layout
  filters := s.shared.filters
  policy := s.policy
  charts := s.draftCharts

variable {s t : Session} {chart : Uuid} {v : ChartView}

/-- The document of a session is that of its draft. -/
theorem toDocument_draft (s : Session) : s.draft.toDocument = s.toDocument := by
  simp only [Draft.toDocument, draft, draftCharts, toDocument, List.map_map]
  rfl

/-- The charts of a draft are those of the session. -/
theorem ids_draft (s : Session) : s.draft.ids = s.charts.keys := by
  simp only [Draft.ids, draft, draftCharts, List.map_map]
  rfl

/-- A chart of the draft is found where the chart of the session is. -/
theorem find?_draftCharts (s : Session) (chart : Uuid) :
    (s.draftCharts.find? fun c => c.id = chart) =
      (s.charts.get? chart).map (s.draftChart chart) := by
  unfold draftCharts Ledger.get?
  induction s.charts.entries with
  | nil => rfl
  | cons entry rest ih =>
    rw [List.map_cons, List.find?_cons, List.lookup_cons]
    by_cases h : entry.1 = chart
    · subst h
      simp [draftChart]
    · rw [beq_eq_false_iff_ne.2 fun heq => h heq.symm]
      simpa [draftChart, h] using ih

/-- The charts of a draft after every chart of the session has been changed in its place. -/
theorem draftCharts_eq_map (f : DraftChart → DraftChart) (hkeys : t.charts.keys = s.charts.keys)
    (h : ∀ id, (t.charts.get? id).map (t.draftChart id) =
      (s.charts.get? id).map fun v => f (s.draftChart id v)) :
    t.draftCharts = s.draftCharts.map f := by
  rw [draftCharts, draftCharts, List.map_map]
  exact Ledger.map_entries_congr hkeys h

/-! ## Calls on the session and on its draft -/

/-- A new chart comes last. -/
theorem draftCharts_withChart (hnew : chart ∉ s.charts.keys) (persisted : Option Spec)
    (participation : Participation) :
    (s.withChart chart persisted participation).draftCharts =
      s.draftCharts ++ [⟨chart, Sheet.ofKept persisted, participation.emits⟩] := by
  have hold : ∀ entry ∈ s.charts.entries,
      (s.withChart chart persisted participation).draftChart entry.1 entry.2 =
        s.draftChart entry.1 entry.2 := by
    intro entry hentry
    have hne : entry.1 ≠ chart := fun heq => hnew (heq ▸ List.mem_map_of_mem hentry)
    have hpart := s.shared.participation_register chart entry.1 participation
    rw [if_neg hne] at hpart
    exact congrArg (DraftChart.mk _ _) (congrArg Participation.emits hpart)
  have hadded : (s.withChart chart persisted participation).draftChart chart
      (s.newChart chart persisted) = ⟨chart, Sheet.ofKept persisted, participation.emits⟩ := by
    have hpart := s.shared.participation_register chart chart participation
    rw [if_pos rfl] at hpart
    exact congrArg (DraftChart.mk _ _) (congrArg Participation.emits hpart)
  have hentries : (s.withChart chart persisted participation).charts.entries =
      s.charts.entries ++ [(chart, s.newChart chart persisted)] :=
    Ledger.entries_insert_of_not_mem _ hnew
  rw [draftCharts, hentries, List.map_append, List.map_congr_left hold, List.map_singleton, hadded]
  rfl

/-- A removed chart leaves the others in their order. -/
theorem draftCharts_removeChart (s : Session) (chart : Uuid) :
    (s.removeChart chart).2.draftCharts = s.draftCharts.filter fun c => c.id ≠ chart := by
  cases hchart : s.charts.get? chart with
  | none =>
    have habsent : s.draftCharts.filter (fun c => c.id ≠ chart) = s.draftCharts := by
      have hnone := s.find?_draftCharts chart
      rw [hchart, Option.map_none, List.find?_eq_none] at hnone
      rw [List.filter_eq_self]
      simpa using hnone
    simp only [removeChart, hchart, habsent]
  | some v =>
    have hleft : (s.removeChart chart).2 =
        { s with charts := s.charts.erase chart, shared := s.shared.unregister chart } := by
      simp only [removeChart, hchart]
    have hkept : ∀ entry ∈ (s.charts.erase chart).entries,
        (s.removeChart chart).2.draftChart entry.1 entry.2 = s.draftChart entry.1 entry.2 := by
      intro entry hentry
      have hne : entry.1 ≠ chart := of_decide_eq_true (List.mem_filter.1 hentry).2
      rw [hleft]
      exact congrArg (DraftChart.mk _ _)
        (congrArg Participation.emits (s.shared.participation_unregister hne))
    have hcharts : (s.removeChart chart).2.charts = s.charts.erase chart := by rw [hleft]
    rw [draftCharts, hcharts, List.map_congr_left hkept, draftCharts, List.filter_map]
    rfl

/-- A call on one chart changes the sheet of that chart. -/
theorem draftCharts_onChart (s : Session) (chart : Uuid) (call : ViewCall) :
    (s.left (.onChart chart call)).draftCharts = s.draftCharts.map fun c => c.take chart call := by
  have hother : ∀ id, id ≠ chart → ∀ v,
      s.draftChart id v = (s.draftChart id v).take chart call :=
    fun id hid v => (if_neg hid).symm
  cases hchart : s.charts.get? chart with
  | none =>
    rw [left_onChart_of_none hchart]
    refine draftCharts_eq_map _ rfl fun id => ?_
    by_cases hid : id = chart
    · rw [hid, hchart, Option.map_none, Option.map_none]
    · exact congrArg (Option.map · (s.charts.get? id)) (funext (hother id hid))
  | some v =>
    rw [left_onChart hchart]
    refine draftCharts_eq_map _ (keys_put hchart _) fun id => ?_
    rw [get?_put]
    by_cases hid : id = chart
    · have htaken : (s.draftChart chart v).take chart call =
          s.draftChart chart (v.perform call).state := by
        rw [DraftChart.take, if_pos (show (s.draftChart chart v).id = chart from rfl), draftChart,
          draftChart, ChartView.sheet_perform]
      rw [if_pos hid, hid, hchart, Option.map_some, Option.map_some, htaken]
      rfl
    · rw [if_neg hid]
      exact congrArg (Option.map · (s.charts.get? id)) (funext (hother id hid))

/-- The filters that a call asks for are those that it asks the draft for. -/
theorem refilter_draft (s : Session) (call : FilterCall) :
    s.draft.refilter call = (s.requested? call).getD s.shared.filters := by
  cases call with
  | set filters => rfl
  | clear => rfl
  | select chart value =>
    have hselected : s.draft.selected? chart value = s.selected? chart value := by
      rw [Draft.selected?, draft, find?_draftCharts, selected?]
      cases s.charts.get? chart with
      | none => rfl
      | some v =>
        rw [Option.map_some, Option.bind_some]
        simp only [ChartView.refusal?_eq_none_iff]
        rfl
    rw [Draft.refilter, hselected, requested?]
    cases s.selected? chart value with
    | none => rfl
    | some delta => rfl

/-- Delivered filters do not show on the charts of the draft. -/
theorem draft_of_delivered {filters : FilterSet} {ids : List Uuid}
    (h : Delivered filters ids (s.withFilters filters) t) : t.draft = { s.draft with filters } := by
  have hshared : ∀ chart v, t.draftChart chart v = s.draftChart chart v := by
    intro chart v
    rw [draftChart, h.frame]
    rfl
  have hgiven : ∀ chart v, t.draftChart chart (v.given filters) = s.draftChart chart v := by
    intro chart v
    rw [hshared, draftChart, draftChart, ChartView.sheet_given]
  have hcharts : t.draftCharts = s.draftCharts.map fun c => c := by
    refine draftCharts_eq_map _ h.keys fun chart => ?_
    rw [h.charts]
    split
    · rw [Option.map_map]
      exact congrArg (Option.map · (s.charts.get? chart)) (funext (hgiven chart))
    · exact congrArg (Option.map · (s.charts.get? chart)) (funext (hshared chart))
  rw [List.map_id'] at hcharts
  rw [draft, hcharts, h.frame]
  rfl

/-- A call that may change the filters shows on the filters only. -/
theorem draft_changeFilters (s : Session) (call : FilterCall) :
    (s.left (.changeFilters call)).draft = { s.draft with filters := s.draft.refilter call } := by
  rw [refilter_draft, left]
  cases hrequested : s.requested? call with
  | none =>
    rw [(changeFilters_of_none hrequested).1]
    rfl
  | some filters => exact draft_of_delivered (changeFilters_delivered hrequested)

/-- A call on one chart shows on that chart only. -/
theorem draft_onChart (s : Session) (chart : Uuid) (call : ViewCall) :
    (s.left (.onChart chart call)).draft = s.draft.take (.onChart chart call) := by
  have hcharts := s.draftCharts_onChart chart call
  cases hchart : s.charts.get? chart with
  | none =>
    rw [left_onChart_of_none hchart] at hcharts ⊢
    rw [Draft.take, draft, ← hcharts]
  | some v =>
    rw [left_onChart hchart] at hcharts ⊢
    rw [Draft.take, draft, hcharts]
    rfl

/-- Running charts does not show on a draft. -/
theorem draft_refreshAll {ε : Type} (s : Session) (execute : Executor ε) (env : ε) :
    (s.left (.refreshAll execute env)).draft = s.draft := by
  obtain ⟨calls, hcalls, hrefresh⟩ := refreshAll_eq_after execute env s
  rw [hrefresh]
  refine after_induction (motive := fun now => now.draft = s.draft) (·.isQuery = true)
    (fun now call hcall hnow => ?_) rfl hcalls
  cases call with
  | onChart chart call =>
    have hruns : (SessionCall.onChart chart call).runsCharts = true := hcall
    rw [draft_onChart, Draft.take_of_runsCharts hruns, hnow]
  | _ => cases hcall

/-- A call shows on the draft of a session as if it had been made on the draft. -/
theorem draft_left (s : Session) (call : SessionCall)
    (hfresh : ∀ chart, call.added? = some chart → chart ∉ s.charts.keys) :
    (s.left call).draft = s.draft.take call := by
  cases call with
  | configure option => cases option <;> rfl
  | setId id => rfl
  | addChart chart persisted participation =>
    rw [left, addChart_eq, Draft.take]
    exact congrArg (fun charts => { s.draft with charts })
      (draftCharts_withChart (hfresh chart rfl) persisted participation)
  | removeChart chart =>
    have hcharts := s.draftCharts_removeChart chart
    rw [left, Draft.take, draft, hcharts]
    cases hchart : s.charts.get? chart with
    | none => simp only [removeChart, hchart]; rfl
    | some v => simp only [removeChart, hchart]; rfl
  | changeFilters call => exact draft_changeFilters s call
  | refreshAll execute env => exact draft_refreshAll s execute env
  | onChart chart call => exact draft_onChart s chart call

/-- So do any calls, made one after the other, if no two charts get the same identifier. -/
theorem draft_after {calls : List SessionCall}
    (h : (s.charts.keys ++ calls.filterMap SessionCall.added?).Nodup) :
    (s.after calls).draft = s.draft.after calls := by
  induction calls generalizing s with
  | nil => rfl
  | cons call rest ih =>
    have hadded : (call :: rest).filterMap SessionCall.added? =
        call.added?.toList ++ rest.filterMap SessionCall.added? := by
      rw [List.filterMap_cons]
      cases call.added? with
      | none => rfl
      | some chart => rfl
    rw [hadded, ← List.append_assoc] at h
    have hleft : (s.left call).draft = s.draft.take call := by
      refine draft_left s call fun chart hchart hmem => ?_
      rw [hchart] at h
      exact (List.nodup_append.1 (List.nodup_append.1 h).1).2.2 chart hmem chart
        (List.mem_singleton_self chart) rfl
    have hkeys : (s.left call).charts.keys.Sublist (s.charts.keys ++ call.added?.toList) := by
      rw [← ids_draft, hleft, ← ids_draft]
      exact s.draft.ids_take call
    rw [after_cons, ih ((hkeys.append_right _).nodup h), hleft]
    rfl

/-! ## Opened documents -/

/-- The calls that add one chart for each kept specification. -/
def additions (identify : Nat → Uuid) (number : Nat) (specs : List Spec) : List SessionCall :=
  (specs.zipIdx number).map fun (spec, number) => .addChart (identify number) (some spec) {}

/-- Charts are added by calls like any others, and none of them is refused. -/
theorem addCharts_eq (identify : Nat → Uuid) (number : Nat) (specs : List Spec) (s : Session) :
    (addCharts identify number specs s).state = s.after (additions identify number specs) ∧
      (addCharts identify number specs s).answer = .ok () := by
  induction specs generalizing s number with
  | nil => exact ⟨rfl, rfl⟩
  | cons spec rest ih =>
    have hadded : (s.addChart (identify number) (some spec)).answer = .ok (identify number) := by
      rw [addChart_eq]
      rfl
    obtain ⟨hstate, hanswer⟩ := Turn.andThen_of_ok
      (fun s _ => addCharts identify (number + 1) rest s) hadded
    rw [addCharts, hstate, hanswer]
    exact ih (number + 1) _

/-- Every chart that is added gets its own number. -/
theorem added_additions (identify : Nat → Uuid) (number : Nat) (specs : List Spec) :
    (additions identify number specs).filterMap SessionCall.added? =
      (List.range' number specs.length).map identify := by
  rw [additions, List.filterMap_map, ← List.zipIdx_map_snd number specs, List.map_map,
    ← List.filterMap_eq_map]
  rfl

/-- A draft to which charts are added gets them in their order. -/
theorem draft_additions (identify : Nat → Uuid) (number : Nat) (specs : List Spec) (d : Draft) :
    d.after (additions identify number specs) =
      { d with
        charts := d.charts ++ (specs.zipIdx number).map fun (spec, number) =>
          ⟨identify number, Sheet.ofKept (some spec), true⟩ } := by
  induction specs generalizing d number with
  | nil =>
    rw [List.zipIdx_nil, List.map_nil, List.append_nil]
    rfl
  | cons spec rest ih =>
    have hfirst := ih (number + 1) (d.take (.addChart (identify number) (some spec) {}))
    rw [List.zipIdx_cons, List.map_cons, List.append_cons]
    exact hfirst

/-- The draft of a session that has just been opened is that of the document. -/
theorem draft_ofDocument {identify : Nat → Uuid} {d : Document}
    (h : ((List.range d.charts.length).map identify).Nodup) (catalog : Catalog) :
    (ofDocument identify d catalog).state.draft = Draft.ofDocument identify d := by
  have hfresh : ((additions identify 0 d.charts).filterMap SessionCall.added?).Nodup := by
    rwa [added_additions, ← List.range_eq_range']
  rw [ofDocument, (addCharts_eq identify 0 d.charts _).1]
  exact Eq.trans (draft_after hfresh) (draft_additions identify 0 d.charts _)

/-- The charts of a document get identifiers by their numbers. -/
theorem ids_ofDocument (identify : Nat → Uuid) (d : Document) :
    (Draft.ofDocument identify d).ids = (List.range d.charts.length).map identify := by
  rw [Draft.ids, Draft.ofDocument, List.map_map, List.range_eq_range',
    ← List.zipIdx_map_snd 0 d.charts, List.map_map]
  rfl

/-- A document is made of its draft again. -/
theorem toDocument_ofDocument (identify : Nat → Uuid) (d : Document) :
    (Draft.ofDocument identify d).toDocument = d := by
  have hcharts : (Draft.ofDocument identify d).charts.map (·.sheet.spec) = d.charts := by
    rw [Draft.ofDocument, List.map_map]
    exact List.zipIdx_map_fst 0 d.charts
  rw [Draft.toDocument, hcharts]
  rfl

/-- A session keeps the document that it was opened with, changed by the calls as if they had been
made on the document alone. Calls that run charts do not change it at all. -/
theorem document_kept (identify : Nat → Uuid) (d : Document) (catalog : Catalog)
    (calls : List SessionCall)
    (h : ((List.range d.charts.length).map identify ++
      calls.filterMap SessionCall.added?).Nodup) :
    let opened := ofDocument identify d catalog
    opened.answer = .ok () ∧ opened.state.toDocument = d ∧
      (opened.state.after calls).toDocument =
        ((Draft.ofDocument identify d).after calls).toDocument ∧
      (opened.state.after (calls.filter fun call => !call.runsCharts)).toDocument =
        (opened.state.after calls).toDocument := by
  intro opened
  have hopened : opened.state.draft = Draft.ofDocument identify d :=
    draft_ofDocument (List.nodup_append.1 h).1 catalog
  have hkeys : opened.state.charts.keys = (List.range d.charts.length).map identify := by
    rw [← ids_draft, hopened, ids_ofDocument]
  have hafter : ∀ some : List SessionCall, some.Sublist calls →
      (opened.state.after some).toDocument =
        ((Draft.ofDocument identify d).after some).toDocument := by
    intro some hsome
    have hfresh : (opened.state.charts.keys ++ some.filterMap SessionCall.added?).Nodup := by
      rw [hkeys]
      exact ((hsome.filterMap _).append_left _).nodup h
    rw [← toDocument_draft, draft_after hfresh, hopened]
  refine ⟨(addCharts_eq identify 0 d.charts _).2, ?_, hafter calls (List.Sublist.refl calls), ?_⟩
  · rw [← toDocument_draft, hopened, toDocument_ofDocument]
  · rw [hafter _ List.filter_sublist, hafter calls (List.Sublist.refl calls),
      Draft.after_filter_runsCharts]

/-- A document with a bar chart and a pie chart. -/
def salesDocument : Document where
  name := "Sales"
  datasetId := "sales.csv"
  charts :=
    [{ kind := .bar, groupBy := some "region", valueColumn := some "sales" },
      { kind := .pie, groupBy := some "region", valueColumn := some "sales" }]

/-- The bar chart is queried and removed, the pie chart becomes a funnel, and a new chart gets a
kept specification late. -/
def salesChanges : List SessionCall :=
  [.onChart (Uuid.ofNat 0) .poll, .removeChart (Uuid.ofNat 0),
    .onChart (Uuid.ofNat 1) (.edit (.kind .funnel)), .addChart (Uuid.ofNat 2) none {},
    .onChart (Uuid.ofNat 2) (.hydrate { kind := .kpi, valueColumn := some "sales" })]

/-- Two charts are kept, the funnel before the new chart. -/
theorem document_kept_salesDocument :
    ((List.range salesDocument.charts.length).map Uuid.ofNat ++
      salesChanges.filterMap SessionCall.added?).Nodup ∧
    ((ofDocument Uuid.ofNat salesDocument {}).state.after salesChanges).toDocument =
      { salesDocument with
        charts :=
          [{ kind := .funnel, groupBy := some "region", valueColumn := some "sales" },
            { kind := .kpi, valueColumn := some "sales" }] } := by
  have hfresh : ((List.range salesDocument.charts.length).map Uuid.ofNat ++
      salesChanges.filterMap SessionCall.added?).Nodup := by decide
  obtain ⟨-, -, hafter, -⟩ := document_kept Uuid.ofNat salesDocument {} salesChanges hfresh
  exact ⟨hfresh, hafter.trans rfl⟩

end Session

end Chartboard
