import Chartboard.Proofs.View.History

/-!
# What becomes of a specification

Only three things decide what a call makes of the specification of a chart: the specification
itself, whether a kept one may still take its place, and whether the chart is mounted. The sheet of
a chart holds these three and nothing else. It goes through the same calls as the chart, and no
query, answer or filter ever shows on it.
-/

namespace Chartboard

/-- How far a chart has come, as far as its specification is concerned. -/
inductive Stage where
  /-- Not mounted yet: it takes a kept specification but no edits. -/
  | unmounted
  /-- Mounted. -/
  | mounted
  /-- Removed: its specification is the last one. -/
  | removed
  deriving DecidableEq, Repr

/-- The stage that a phase belongs to. -/
def Phase.stage : Phase → Stage
  | uninitialized => .unmounted
  | tornDown => .removed
  | _ => .mounted

/-- A specification with what decides about its changes. -/
structure Sheet where
  /-- The specification. -/
  spec : Spec
  /-- A kept specification has been taken over, or an edit has made it too late for that. -/
  settled : Bool
  /-- How far the chart has come. -/
  stage : Stage
  deriving DecidableEq, Repr

namespace Sheet

/-- Takes over a kept specification, unless it is too late. -/
def adopt (s : Sheet) (persisted : Spec) : Sheet :=
  if s.settled then s else { s with spec := persisted, settled := true }

/-- Edits the specification of a mounted chart; nothing happens if it stays the same. -/
def change (s : Sheet) (spec : Spec) : Sheet :=
  if s.stage = .mounted ∧ spec ≠ s.spec then { s with spec, settled := true } else s

/-- The sheet after a call. -/
def take (s : Sheet) : ViewCall → Sheet
  | .mount persisted =>
    if s.stage = .unmounted then { persisted.elim s s.adopt with stage := .mounted } else s
  | .hydrate persisted => if s.stage = .removed then s else s.adopt persisted
  | .edit e => s.change (s.spec.apply e)
  | .replaceSpec spec => s.change spec
  | .tearDown => { s with stage := .removed }
  | _ => s

end Sheet

namespace ChartView

/-- The sheet of a chart. -/
def sheet (v : ChartView) : Sheet where
  spec := v.spec
  settled := v.hydrated
  stage := v.phase.stage

variable {v : ChartView}

/-- A chart takes calls exactly while it is mounted. -/
theorem refusal?_eq_none_iff : v.refusal? = none ↔ v.phase.stage = .mounted := by
  cases hp : v.phase <;> simp [refusal?, Phase.stage, hp]

/-- The last stage is that of a removed chart. -/
theorem stage_removed_iff : v.phase.stage = .removed ↔ v.phase = .tornDown := by
  cases hp : v.phase <;> simp [Phase.stage]

/-- The first stage is that of a chart that is not mounted. -/
theorem stage_unmounted_iff : v.phase.stage = .unmounted ↔ v.phase = .uninitialized := by
  cases hp : v.phase <;> simp [Phase.stage]

/-- To be out of date changes nothing about the specification. -/
theorem sheet_markStale (v : ChartView) : v.markStale.sheet = v.sheet := by
  cases hp : v.phase <;> simp only [markStale, sheet, Phase.stage, hp]

/-- What a mounted chart makes of a call that all others refuse. -/
theorem sheet_whenLive {α : Type} (v : ChartView) (turn : Turn ChartView α) :
    (v.whenLive turn).state.sheet =
      if v.phase.stage = .mounted then turn.state.sheet else v.sheet := by
  cases hrefusal : v.refusal? with
  | none => rw [if_pos (refusal?_eq_none_iff.1 hrefusal)]; simp only [whenLive, hrefusal]
  | some refusal =>
    have hstage : v.phase.stage ≠ .mounted := fun h => by
      rw [refusal?_eq_none_iff.2 h] at hrefusal
      cases hrefusal
    rw [if_neg hstage]
    simp only [whenLive, hrefusal, Turn.refused]

/-- A call that leaves the specification alone whatever the chart makes of it. -/
theorem sheet_whenLive_of_eq {α : Type} {turn : Turn ChartView α}
    (h : v.phase.stage = .mounted → turn.state.sheet = v.sheet) :
    (v.whenLive turn).state.sheet = v.sheet := by
  rw [sheet_whenLive]
  split
  · next hstage => exact h hstage
  · rfl

/-- A mounted chart with the same specification that is as settled. -/
theorem sheet_eq_of_mounted {w : ChartView} (hv : v.phase.stage = .mounted)
    (hspec : w.spec = v.spec) (hsettled : w.hydrated = v.hydrated)
    (hw : w.phase.stage = .mounted) : w.sheet = v.sheet := by
  rw [sheet, sheet, hspec, hsettled, hw, hv]

/-- Hydrating takes over a specification as the sheet does. -/
theorem sheet_hydrate (v : ChartView) (persisted : Spec) :
    (v.hydrate persisted).state.sheet = v.sheet.take (.hydrate persisted) := by
  by_cases hphase : v.phase = .tornDown
  · have hstage : v.sheet.stage = .removed := stage_removed_iff.2 hphase
    rw [hydrate, if_pos hphase, Sheet.take, if_pos hstage]
    rfl
  · have hstage : v.sheet.stage ≠ .removed := fun h => hphase (stage_removed_iff.1 h)
    rw [hydrate, if_neg hphase, Sheet.take, if_neg hstage]
    cases hh : v.hydrated with
    | true =>
      have hsettled : v.sheet.settled = true := hh
      rw [if_pos rfl, Sheet.adopt, if_pos hsettled]
      rfl
    | false =>
      have hsettled : ¬v.sheet.settled = true := by
        rw [show v.sheet.settled = v.hydrated from rfl, hh]
        exact Bool.false_ne_true
      rw [if_neg Bool.false_ne_true, Sheet.adopt, if_neg hsettled]
      exact sheet_markStale { v with hydrated := true, spec := persisted }

/-- Mounting takes over a specification as the sheet does. -/
theorem sheet_mount (v : ChartView) (persisted : Option Spec) :
    (v.mount persisted).state.sheet = v.sheet.take (.mount persisted) := by
  by_cases hphase : v.phase = .uninitialized
  · have hstage : v.sheet.stage = .unmounted := stage_unmounted_iff.2 hphase
    rw [Sheet.take, if_pos hstage]
    cases persisted with
    | none => simp only [mount, hphase]; rfl
    | some spec =>
      cases hh : v.hydrated with
      | true =>
        simp [mount, hphase, hydrate, hh, Turn.andThen, Turn.done, sheet, Sheet.adopt, Phase.stage]
      | false =>
        simp [mount, hphase, hydrate, hh, markStale, Turn.andThen, Turn.done, sheet, Sheet.adopt,
          Phase.stage]
  · have hstage : v.sheet.stage ≠ .unmounted := fun h => hphase (stage_unmounted_iff.1 h)
    rw [Sheet.take, if_neg hstage]
    cases hp : v.phase with
    | uninitialized => exact absurd hp hphase
    | _ => simp only [mount, hp]; rfl

/-- A new specification changes the sheet. -/
theorem sheet_replaceSpec (v : ChartView) (spec : Spec) :
    (v.replaceSpec spec).state.sheet = v.sheet.change spec := by
  rw [replaceSpec, sheet_whenLive, Sheet.change]
  by_cases hstage : v.phase.stage = .mounted
  · rw [if_pos hstage]
    by_cases hspec : v.spec = spec
    · rw [if_pos hspec, if_neg fun h => h.2 hspec.symm]
      rfl
    · rw [if_neg hspec, if_pos ⟨hstage, fun h => hspec h.symm⟩]
      exact sheet_markStale { v with spec, hydrated := true }
  · rw [if_neg hstage, if_neg fun h => hstage h.1]

/-- New filters leave the sheet alone. -/
theorem sheet_setFilters (v : ChartView) (filters : FilterSet) :
    (v.setFilters filters).state.sheet = v.sheet := by
  refine sheet_whenLive_of_eq fun _ => ?_
  split
  · rfl
  · exact sheet_markStale { v with filters }

/-- New columns leave the sheet alone. -/
theorem sheet_setCatalog (v : ChartView) (catalog : Catalog) :
    (v.setCatalog catalog).state.sheet = v.sheet := by
  refine sheet_whenLive_of_eq fun _ => ?_
  split
  · rfl
  · exact sheet_markStale { v with catalog }

/-- Handing out a query leaves the sheet alone. -/
theorem sheet_poll (v : ChartView) : v.poll.state.sheet = v.sheet := by
  refine sheet_whenLive_of_eq fun hstage => ?_
  split
  · split
    · exact sheet_eq_of_mounted hstage rfl rfl rfl
    · split
      · exact sheet_eq_of_mounted hstage rfl rfl rfl
      · exact sheet_eq_of_mounted hstage rfl rfl rfl
  · rfl

/-- Taking an answer leaves the sheet alone. -/
theorem sheet_complete (v : ChartView) (generation : Nat)
    (result : Except QueryError Response) :
    (v.complete generation result).state.sheet = v.sheet := by
  refine sheet_whenLive_of_eq fun hstage => ?_
  split
  · cases result with
    | ok response => exact sheet_eq_of_mounted hstage rfl rfl rfl
    | error e => exact sheet_eq_of_mounted hstage rfl rfl rfl
  · rfl

/-- Removing a chart changes nothing on its sheet but the stage. -/
theorem sheet_tearDown (v : ChartView) : v.tearDown.sheet = { v.sheet with stage := .removed } := by
  by_cases hphase : v.phase = .tornDown
  · rw [tearDown, if_pos hphase, sheet, hphase]
    rfl
  · rw [tearDown, if_neg hphase]
    rfl

/-- A call makes of the sheet of a chart what it makes of the chart. -/
theorem sheet_perform (v : ChartView) (call : ViewCall) :
    (v.perform call).state.sheet = v.sheet.take call := by
  cases call with
  | mount persisted => exact sheet_mount v persisted
  | hydrate persisted => exact sheet_hydrate v persisted
  | edit e => exact sheet_replaceSpec v (v.spec.apply e)
  | replaceSpec spec => exact sheet_replaceSpec v spec
  | setFilters filters => exact sheet_setFilters v filters
  | setCatalog catalog => exact sheet_setCatalog v catalog
  | refresh => exact sheet_whenLive_of_eq fun _ => sheet_markStale v
  | poll => exact sheet_poll v
  | complete generation result => exact sheet_complete v generation result
  | selectPoint value => exact sheet_whenLive_of_eq fun _ => rfl
  | subscribe subscriber => rfl
  | unsubscribe subscriber => rfl
  | tearDown => exact sheet_tearDown v

end ChartView

end Chartboard
