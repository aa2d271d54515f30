import Chartboard.Render.Adapt

/-!
# What a model reads of a specification

A model reads a few fields of a specification. Which ones it reads depends on the kind that is drawn
and on what has been found before. A response is drawn alike for two specifications in which these
fields are the same.
-/

namespace Chartboard

/-- A chart of a given kind reads the same of two specifications. -/
structure Spec.ReadsAlike (kind : ChartKind) (s t : Spec) : Prop where
  /-- Histograms read the value column. -/
  valueColumn : kind = .histogram → s.valueColumn = t.valueColumn
  /-- All others read the key of the value. -/
  valueKey : kind ≠ .histogram → s.valueKey = t.valueKey
  /-- All but figures and histograms read the grouping column. -/
  groupBy : kind ≠ .kpi → kind ≠ .histogram → s.groupBy = t.groupBy
  /-- Bars, lines and areas read the series column after the value and the groups. -/
  series : kind.supportsSubGroup → s.valueKey.isSome → s.groupBy.isSome →
    s.effectiveSubGroup = t.effectiveSubGroup
  /-- Bars and areas read whether they are stacked. -/
  stacked : kind.supportsStacking → s.stacked = t.stacked
  /-- Two axes read the key of the second value after that of the first. -/
  secondaryKey : kind = .dualAxis → s.valueKey.isSome → s.secondaryKey = t.secondaryKey

namespace RenderModel

variable {kind : ChartKind} {s t : Spec} (h : s.ReadsAlike kind t)

include h

/-- Specifications that are read alike are drawn as the same grid. -/
theorem categoricalOf_alike (hkind : kind.supportsSubGroup) (rows : List Row) :
    categoricalOf kind s rows = categoricalOf kind t rows := by
  have hkpi : kind ≠ .kpi := fun heq => by rw [heq] at hkind; cases hkind
  have hhistogram : kind ≠ .histogram := fun heq => by rw [heq] at hkind; cases hkind
  have hstacked : (s.stacked && kind.supportsStacking) = (t.stacked && kind.supportsStacking) := by
    cases hstacks : kind.supportsStacking with
    | true => rw [h.stacked hstacks]
    | false => rw [Bool.and_false, Bool.and_false]
  have hseries := h.series hkind
  unfold categoricalOf
  rw [← h.valueKey hhistogram, ← h.groupBy hkpi hhistogram, hstacked]
  -- Without a value or without groups nothing is said about the series column.
  cases hkey : s.valueKey with
  | none => rfl
  | some key =>
    cases hname : s.groupBy with
    | none => rfl
    | some groupBy =>
      rw [hkey, hname] at hseries
      rw [hseries rfl rfl]

/-- Specifications that are read alike are drawn with the same two axes. -/
theorem dualAxisOf_alike (hkind : kind = .dualAxis) (rows : List Row) :
    dualAxisOf s rows = dualAxisOf t rows := by
  have hsecond := h.secondaryKey hkind
  subst hkind
  unfold dualAxisOf
  rw [← h.valueKey (by decide), ← h.groupBy (by decide) (by decide)]
  cases hkey : s.valueKey with
  | none => rfl
  | some key =>
    rw [hkey] at hsecond
    rw [hsecond rfl]

/-- A response is drawn alike for specifications in which a chart of the kind reads the same. -/
theorem ofResponse_alike (displayCap : Nat) (r : Response) :
    ofResponse displayCap kind s r = ofResponse displayCap kind t r := by
  unfold ofResponse
  split
  · rfl
  · cases kind with
    | table => rfl
    | kpi =>
      simp only [kpiOf]
      rw [h.valueKey (by decide)]
    | histogram =>
      simp only [histogramOf]
      rw [h.valueColumn rfl]
    | pie =>
      simp only [pieOf]
      rw [h.valueKey (by decide), h.groupBy (by decide) (by decide)]
    | funnel =>
      simp only [funnelOf]
      rw [h.valueKey (by decide), h.groupBy (by decide) (by decide)]
    | bar => exact categoricalOf_alike h rfl r.rows
    | line => exact categoricalOf_alike h rfl r.rows
    | area => exact categoricalOf_alike h rfl r.rows
    | dualAxis => exact dualAxisOf_alike h rfl r.rows

end RenderModel

end Chartboard
