import Chartboard.Command.Run
import Chartboard.Proofs.Dashboard.Drafts
import Chartboard.Proofs.Dashboard.Refreshing

/-!
# Reported requests

The requests of a dashboard can be looked at without asking anybody. They are then compiled from the
document directly, and not by charts that have been opened. Both ways give the same: what is
reported of a chart is the request that it sends when it is polled first, or else the hint or the
error that it shows instead.
-/

namespace Chartboard

open Json (Value)

/-! ## Reports and polls -/

/-- What is reported of a chart agrees with what comes of polling it. -/
inductive ChartView.Reported (v : ChartView) (index : Nat) : Value → Prop where
  /-- The request that is reported is handed out. -/
  | request (pending : PendingQuery) (polled : v.poll.answer = .ok (some pending)) :
    Reported v index
      (.object [("chart", Value.int index), ("request", pending.request.toJson)])
  /-- No request is handed out, and the chart shows the message and the field that are reported. -/
  | error (fault : ChartFault) (field : SpecField) (polled : v.poll.answer = .ok none)
    (shown : v.poll.state.fault = some fault) (names : fault.field = some field) :
    Reported v index
      (.object [("chart", Value.int index), ("error", .string fault.message),
        ("field", .string field.name)])

namespace ChartView

variable {v : ChartView}

/-- What is reported of the request that the chart would send now. -/
theorem queryReport_eq (hlimits : v.limits = {}) (index : Nat) :
    v.spec.queryReport v.catalog v.filters index =
      match v.nextRequest with
      | .ok request => .object [("chart", Value.int index), ("request", request.toJson)]
      | .error e =>
        .object [("chart", Value.int index), ("error", .string e.message),
          ("field", .string e.field.name)] := by
  rw [nextRequest, hlimits]
  rfl

/-- A chart that waits for a query and cannot send one shows why. -/
theorem poll_of_error {e : ValidationError} (hawaits : v.awaitsQuery = true)
    (h : v.nextRequest = .error e) :
    v.poll.answer = .ok none ∧ v.poll.state.fault = some (.ofValidation e) := by
  rw [poll, whenLive_of_live (refusal?_of_awaitsQuery hawaits), if_pos hawaits, h]
  dsimp only
  split
  · exact ⟨rfl, rfl⟩
  · exact ⟨rfl, rfl⟩

/-- What is reported of a chart that waits for a query agrees with what comes of polling it. -/
theorem reported_queryReport (hawaits : v.awaitsQuery = true) (hlimits : v.limits = {})
    (index : Nat) : v.Reported index (v.spec.queryReport v.catalog v.filters index) := by
  rw [queryReport_eq hlimits]
  cases hnext : v.nextRequest with
  | ok request =>
    have hdue : v.due? = some request := by rw [due?, if_pos hawaits, hnext]; rfl
    exact .request ⟨v.id, v.generation + 1, request⟩ (by rw [poll_of_due hdue]; rfl)
  | error e =>
    obtain ⟨hanswer, hfault⟩ := poll_of_error hawaits hnext
    exact .error (.ofValidation e) e.field hanswer hfault rfl

/-- The request that is reported is the one that is due. -/
theorem request_queryReport (hawaits : v.awaitsQuery = true) (hlimits : v.limits = {})
    (index : Nat) :
    (v.spec.queryReport v.catalog v.filters index).member? "request" =
      v.due?.map Request.toJson := by
  rw [queryReport_eq hlimits, due?, if_pos hawaits]
  cases v.nextRequest with
  | ok request => rfl
  | error e => rfl

end ChartView

/-! ## Opened documents -/

/-- The session of a document before its charts are added. -/
def Document.unfilled (d : Document) (catalog : Catalog) : Session where
  id := d.id
  name := d.name
  datasetId := d.datasetId
  layout := d.layout
  catalog := catalog
  shared := { filters := d.filters }

namespace Session

/-- Charts that are added under new identifiers come behind the others, and they are all new. -/
theorem entries_addCharts (identify : Nat → Uuid) (number : Nat) (specs : List Spec) (s : Session)
    (hfresh : (s.charts.keys ++ (List.range' number specs.length).map identify).Nodup) :
    (addCharts identify number specs s).state.charts.entries =
      s.charts.entries ++ (specs.zipIdx number).map fun (spec, i) =>
        (identify i, s.newChart (identify i) (some spec)) := by
  induction specs generalizing s number with
  | nil => exact (List.append_nil _).symm
  | cons spec rest ih =>
    rw [List.length_cons, List.range'_succ, List.map_cons] at hfresh
    have hnew : identify number ∉ s.charts.keys := fun hmem =>
      (List.nodup_append.1 hfresh).2.2 _ hmem _ List.mem_cons_self rfl
    have hentries : (s.withChart (identify number) (some spec) {}).charts.entries =
        s.charts.entries ++ [(identify number, s.newChart (identify number) (some spec))] :=
      Ledger.entries_insert_of_not_mem _ hnew
    have hkeys : (s.withChart (identify number) (some spec) {}).charts.keys =
        s.charts.keys ++ [identify number] := by
      rw [Ledger.keys, hentries, List.map_append]
      rfl
    have hadded : (s.addChart (identify number) (some spec)).answer = .ok (identify number) := by
      rw [addChart_eq]
      rfl
    obtain ⟨hstate, -⟩ := Turn.andThen_of_ok
      (fun s _ => addCharts identify (number + 1) rest s) hadded
    rw [addCharts, hstate, addChart_eq]
    refine (ih (number + 1) _ ?_).trans ?_
    · show ((s.withChart _ _ _).charts.keys ++ _).Nodup
      rw [hkeys, List.append_assoc]
      exact hfresh
    · show (s.withChart _ _ _).charts.entries ++ _ = _
      rw [hentries, List.append_assoc, List.zipIdx_cons, List.map_cons]
      rfl

/-- The charts of a document that has just been opened. -/
theorem entries_ofDocument {identify : Nat → Uuid} {d : Document}
    (h : ((List.range d.charts.length).map identify).Nodup) (catalog : Catalog) :
    (ofDocument identify d catalog).state.charts.entries =
      d.charts.zipIdx.map fun (spec, i) =>
        (identify i, (d.unfilled catalog).newChart (identify i) (some spec)) := by
  rw [List.range_eq_range'] at h
  exact entries_addCharts identify 0 d.charts (d.unfilled catalog) h

end Session

/-! ## Commands -/

/-- What is reported of the charts of a document. -/
def Document.chartReports (d : Document) (catalog : Catalog) : List Value :=
  d.charts.zipIdx.map fun (s, i) => s.queryReport catalog d.filters i

namespace Command

/-- What is reported of the requests of a dashboard with a file. -/
theorem run_compile {files : Files} {dashboard csv : String} {format : FileFormat} {d : Document}
    {source : Source} (hdashboard : files.dashboard dashboard = .ok d)
    (hsource : files.source csv format = .ok source) :
    (compile dashboard (some csv) format).run files =
      .ok (d.queryReport source.table.catalog) := by
  rw [run, hdashboard]
  show (do
    let catalog ← do pure (← files.source csv format).table.catalog
    pure (d.queryReport catalog)) = _
  rw [hsource]
  rfl

/-- The requests of a dashboard are reported as the charts of the opened dashboard send them. There
is one report for each chart. It holds the request that the chart hands out when it is polled first;
or the chart hands out none then, and shows the message and the field that are reported. A refresh
of the opened dashboard sends the reported requests, in their order and no others. -/
theorem compile_reports_polls {files : Files} {dashboard csv : String} {format : FileFormat}
    {d : Document} {source : Source} {identify : Nat → Uuid}
    (hdashboard : files.dashboard dashboard = .ok d)
    (hsource : files.source csv format = .ok source)
    (hnodup : ((List.range d.charts.length).map identify).Nodup) :
    let opened := Session.ofDocument identify d source.table.catalog
    opened.answer = .ok () ∧
    ∃ report reports, (compile dashboard (some csv) format).run files = .ok report ∧
      report.result.member? "charts" = some (.array reports) ∧
      reports.length = d.charts.length ∧
      opened.state.charts.entries.length = d.charts.length ∧
      (∀ index chart v, opened.state.charts.entries[index]? = some (chart, v) →
        chart = identify index ∧ ∃ report, reports[index]? = some report ∧
          v.Reported index report) ∧
      ∀ {ε : Type} (execute : Executor ε) (env : ε),
        (opened.state.refreshAll (Executor.noting execute) (env, [])).2.2.map Request.toJson =
          reports.filterMap fun report => report.member? "request" := by
  intro opened
  have hentries := Session.entries_ofDocument hnodup source.table.catalog
  change opened.state.charts.entries = _ at hentries
  refine ⟨(Session.addCharts_eq identify 0 d.charts _).2, _, d.chartReports source.table.catalog,
    run_compile hdashboard hsource, rfl, ?_, ?_, fun index chart v hentry => ?_,
    fun execute env => ?_⟩
  · rw [Document.chartReports, List.length_map, List.length_zipIdx]
  · rw [hentries, List.length_map, List.length_zipIdx]
  · rw [hentries, List.getElem?_map, List.getElem?_zipIdx, Option.map_map,
      Option.map_eq_some_iff] at hentry
    obtain ⟨spec, hspec, hview⟩ := hentry
    rw [Function.comp_apply, Nat.zero_add, Prod.mk.injEq] at hview
    obtain ⟨rfl, rfl⟩ := hview
    refine ⟨rfl, spec.queryReport source.table.catalog d.filters index, ?_,
      ChartView.reported_queryReport rfl rfl index⟩
    rw [Document.chartReports, List.getElem?_map, List.getElem?_zipIdx, hspec]
    simp only [Option.map_some, Nat.zero_add]
  · have hlive : opened.state.AllLive := by
      intro chart v hv
      rw [Ledger.get?_eq_some_iff, hentries, List.mem_map] at hv
      obtain ⟨⟨spec, i⟩, -, hview⟩ := hv
      cases hview
      rfl
    rw [((Session.refreshAll_ran execute hlive env).2.2 []), List.nil_append, Session.due, hentries,
      Document.chartReports, List.filterMap_map, List.filterMap_map, List.map_filterMap]
    refine List.filterMap_congr fun entry _ => ?_
    exact (ChartView.request_queryReport rfl rfl entry.2).symm

/-- The bytes of a text of ASCII characters. -/
def asciiBytes (text : String) : List UInt8 :=
  text.toList.map fun c => UInt8.ofNat c.toNat

/-- A file of sales, and a dashboard of a pie and of a chart that is still to be filled in. -/
def salesFiles : Files := fun path =>
  if path = "sales.csv" then .ok (asciiBytes "region,sales\nEast,5\nWest,7\n")
  else if path = "sales.json" then
    .ok (asciiBytes ("\x7b\"name\":\"Sales\",\"dataset_id\":\"sales.csv\",\"charts\":["
      ++ "\x7b\"chart_kind\":\"pie\",\"group_by\":\"region\",\"value_column\":\"sales\"\x7d,"
      ++ "\x7b\x7d]\x7d"))
  else .error .notFound

/-- Two reports are made of the dashboard of sales, and a refresh sends what is reported. -/
theorem compile_reports_polls_salesFiles :
    ∃ d source, salesFiles.dashboard "sales.json" = .ok d ∧
      salesFiles.source "sales.csv" {} = .ok source ∧
      ((List.range d.charts.length).map Uuid.ofNat).Nodup ∧
      ∃ report reports, (compile "sales.json" (some "sales.csv") {}).run salesFiles = .ok report ∧
        report.result.member? "charts" = some (.array reports) ∧ reports.length = 2 ∧
        ((Session.ofDocument Uuid.ofNat d source.table.catalog).state.refreshAll
          (Executor.noting source.table.executor) ((), [])).2.2.map Request.toJson =
            reports.filterMap fun report => report.member? "request" := by
  have hlength : (salesFiles.dashboard "sales.json").toOption.map (·.charts.length) = some 2 := by
    decide +kernel
  have hloads : (salesFiles.source "sales.csv" {}).toOption.isSome = true := by
    decide +kernel
  cases hdashboard : salesFiles.dashboard "sales.json" with
  | error failure =>
    rw [hdashboard] at hlength
    cases hlength
  | ok d =>
    cases hsource : salesFiles.source "sales.csv" {} with
    | error failure =>
      rw [hsource] at hloads
      cases hloads
    | ok source =>
      rw [hdashboard] at hlength
      have hcharts : d.charts.length = 2 := Option.some.inj hlength
      have hnodup : ((List.range d.charts.length).map Uuid.ofNat).Nodup := by
        rw [hcharts]
        decide
      obtain ⟨-, report, reports, hrun, hmember, hreports, -, -, hsent⟩ :=
        compile_reports_polls hdashboard hsource hnodup
      exact ⟨d, source, rfl, rfl, hnodup, report, reports, hrun, hmember,
        hreports.trans hcharts, hsent source.table.executor ()⟩

end Command

end Chartboard
