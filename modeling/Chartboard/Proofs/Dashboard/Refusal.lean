import Chartboard.Proofs.Dashboard.Delivery

/-!
# Refused changes of the shared filters

The shared filters are written first, and then they are delivered chart by chart, so a change that
one chart refuses has been made in part. What a refused call leaves is known all the same: the
shared filters are the new ones, and the charts in front of the one that refuses have them. So
nothing has changed exactly if nothing was asked for, or if the filters that were asked for are
those that were there.
-/

namespace Chartboard

open Json (Value)

namespace ChartView

variable {v : ChartView} {filters : FilterSet}

/-- Given filters leave the chart as it is exactly if they agree with its own. -/
theorem given_unchanged_iff (h : filters.isCanonical) :
    ((v.given filters).filters = v.filters ∧ (v.given filters).phase = v.phase) ↔
      v.filters.same filters := by
  constructor
  · rintro ⟨hfilters, -⟩
    by_contra hsame
    rw [given_of_not_same hsame, markStale_filters] at hfilters
    change filters = v.filters at hfilters
    rw [← hfilters] at hsame
    exact hsame (FilterSet.same_refl h)
  · intro hsame
    rw [given_of_same hsame]
    exact ⟨rfl, rfl⟩

end ChartView

namespace Session

/-- The shared filters are the same and so are the charts, and every chart has the filters that it
had and has come as far as it had. -/
structure Unchanged (s t : Session) : Prop where
  /-- The shared filters are the same. -/
  filters : t.shared.filters = s.shared.filters
  /-- Every chart has its filters and its phase. -/
  charts : ∀ id, (t.charts.get? id).map (fun v => (v.filters, v.phase)) =
    (s.charts.get? id).map fun v => (v.filters, v.phase)

variable {s t : Session} {filters : FilterSet}

/-- After a delivery nothing has changed exactly if the filters are those that were shared and agree
with those of every chart that was served. -/
theorem unchanged_delivered_iff {ids : List Uuid} (h : s.shared.filters.isCanonical)
    (hdelivered : Delivered filters ids (s.withFilters filters) t) :
    s.Unchanged t ↔ filters = s.shared.filters ∧
      ∀ id ∈ ids, ∀ v, s.charts.get? id = some v → v.filters.same filters := by
  have hfilters : t.shared.filters = filters := by
    rw [hdelivered.frame]
    rfl
  constructor
  · intro hunchanged
    have hshared : filters = s.shared.filters := hfilters.symm.trans hunchanged.filters
    refine ⟨hshared, fun id hid v hv => ?_⟩
    have hchart := hunchanged.charts id
    rw [hdelivered.charts, if_pos hid] at hchart
    change Option.map _ ((s.charts.get? id).map _) = _ at hchart
    rw [hv, Option.map_some, Option.map_some, Option.map_some, Option.some.injEq,
      Prod.mk.injEq] at hchart
    exact (ChartView.given_unchanged_iff (by rw [hshared]; exact h)).1 hchart
  · rintro ⟨hshared, hserved⟩
    refine ⟨hfilters.trans hshared, fun id => ?_⟩
    rw [hdelivered.charts]
    split
    · next hid =>
      change Option.map _ ((s.charts.get? id).map _) = _
      cases hv : s.charts.get? id with
      | none => rfl
      | some v =>
        rw [Option.map_some, ChartView.given_of_same (hserved id hid v hv)]
    · rfl

/-- A change of the shared filters is refused by a chart only. It leaves the shared filters, and the
filters and the phase of every chart, as they were exactly if no filters were asked for, or those
that are shared already and agree with those of every chart that is served in front of the one that
refuses. -/
theorem refused_unchanged_iff (s : Session) (call : FilterCall) (refusal : Refusal)
    (hcanonical : s.shared.filters.isCanonical)
    (hrefused : (s.changeFilters call).answer = .error refusal) :
    (∃ chart v, s.charts.get? chart = some v ∧ v.refusal? = some refusal) ∧
    (s.Unchanged (s.changeFilters call).state ↔
      ∀ filters, s.requested? call = some filters → filters = s.shared.filters ∧
        ∀ chart ∈ s.served s.charts.keys, ∀ v, s.charts.get? chart = some v →
          v.filters.same filters) := by
  refine ⟨changeFilters_refused hrefused, ?_⟩
  cases hrequested : s.requested? call with
  | none =>
    rw [(changeFilters_of_none hrequested).1]
    exact ⟨nofun, fun _ => ⟨rfl, fun _ => rfl⟩⟩
  | some filters =>
    rw [unchanged_delivered_iff hcanonical (changeFilters_delivered hrequested)]
    constructor
    · intro h filters' heq
      cases heq
      exact h
    · intro h
      exact h filters rfl

/-- A dashboard of two charts, of which the first has been removed behind the back of the
session. -/
def halfTorn : Session :=
  (SessionStart.empty "Sales" "sales.csv" {}).session.after
    [.addChart (Uuid.ofNat 1) none {}, .addChart (Uuid.ofNat 2) none {},
      .onChart (Uuid.ofNat 1) .tearDown]

/-- The filters are removed where there are none: the first chart refuses, and nothing changes. -/
theorem refused_unchanged_iff_halfTorn :
    halfTorn.shared.filters.isCanonical ∧
    (halfTorn.changeFilters .clear).answer = .error (.tornDown (Uuid.ofNat 1)) ∧
    (∃ chart v, halfTorn.charts.get? chart = some v ∧
      v.refusal? = some (.tornDown (Uuid.ofNat 1))) ∧
    (halfTorn.Unchanged (halfTorn.changeFilters .clear).state ↔
      ∀ filters, halfTorn.requested? .clear = some filters → filters = halfTorn.shared.filters ∧
        ∀ chart ∈ halfTorn.served halfTorn.charts.keys, ∀ v, halfTorn.charts.get? chart = some v →
          v.filters.same filters) :=
  ⟨rfl, rfl, refused_unchanged_iff halfTorn .clear (.tornDown (Uuid.ofNat 1)) rfl rfl⟩

/-- A new filter is refused by the first chart, but it is shared from then on. -/
theorem halfTorn_changed :
    let east : FilterSet := SortedMap.ofList [("region", .string "East")]
    (halfTorn.changeFilters (.set east)).answer = .error (.tornDown (Uuid.ofNat 1)) ∧
    (halfTorn.changeFilters (.set east)).state.shared.filters = east ∧
    ¬halfTorn.Unchanged (halfTorn.changeFilters (.set east)).state := by
  refine ⟨rfl, rfl, fun h => ?_⟩
  have hsize := congrArg SortedMap.size h.filters
  exact absurd hsize (by decide)

end Session

end Chartboard
