import Chartboard.Proofs.Decimal.Ordered
import Chartboard.Proofs.Render.Drawing

/-!
# Colouring by the mean

Colouring gives the points of single bars their classes and changes nothing else, so it may be done
again. The classes go with the values: one for each slot, gaps and nothing else neutral, and what is
below the mean is really less than what is not. Nothing that is drawn for a response has classes
before it is coloured.
-/

namespace Chartboard

/-! ## Classes of a series -/

namespace Series

/-- The series without the classes of its points. -/
def uncolored (s : Series) : Series :=
  { s with pointClasses := none }

/-- The classes go with the values of a series. -/
structure Fits (s : Series) (classes : List ColorClass) : Prop where
  /-- Every value slot has one class. -/
  length : classes.length = s.values.length
  /-- The gaps are neutral, and nothing else is. -/
  neutral : ∀ i : Nat, classes[i]? = some .neutral ↔ s.values[i]? = some none
  /-- What is below is not at least as great as something above. -/
  apart : ∀ (i j : Nat) (v w : Float), classes[i]? = some .below → s.values[i]? = some (some v) →
    classes[j]? = some .above → s.values[j]? = some (some w) → ¬w ≤ v

/-- There is no mean to take exactly if there are only gaps. -/
theorem mean_eq_none {s : Series} : s.mean = none ↔ ∀ v ∈ s.values, v = none := by
  have hgaps : s.values.filterMap id = [] ↔ ∀ v ∈ s.values, v = none := List.filterMap_eq_nil_iff
  rw [← hgaps, mean]
  cases s.values.filterMap id with
  | nil => exact iff_of_true rfl rfl
  | cons v rest => exact iff_of_false nofun nofun

/-- The gaps are neutral, and nothing else is. -/
theorem classOf_eq_neutral {mean : Float} {v : Option Float} :
    classOf mean v = .neutral ↔ v = none := by
  cases v with
  | none => exact iff_of_true rfl rfl
  | some v =>
    refine iff_of_false ?_ nofun
    rw [classOf]
    split
    · exact nofun
    · exact nofun

/-- A value is above if it is at least the mean. -/
theorem classOf_eq_above {mean v : Float} : classOf mean (some v) = .above ↔ mean ≤ v := by
  rw [classOf]
  split
  · rename_i h
    exact iff_of_true rfl h
  · rename_i h
    exact iff_of_false nofun h

/-- A value is below if it is not at least the mean. -/
theorem classOf_eq_below {mean v : Float} : classOf mean (some v) = .below ↔ ¬mean ≤ v := by
  rw [classOf]
  split
  · rename_i h
    exact iff_of_false nofun (not_not_intro h)
  · rename_i h
    exact iff_of_true rfl h

/-- The classes of the values go with them, whatever they are compared with. -/
theorem fits_classOf (s : Series) (mean : Float) : s.Fits (s.values.map (classOf mean)) where
  length := List.length_map _
  neutral := by
    intro i
    rw [List.getElem?_map]
    cases s.values[i]? with
    | none => exact iff_of_false nofun nofun
    | some v =>
      rw [Option.map_some, Option.some.injEq, Option.some.injEq]
      exact classOf_eq_neutral
  apart := by
    intro i j v w hbelow hv habove hw hle
    rw [List.getElem?_map, hv, Option.map_some, Option.some.injEq] at hbelow
    rw [List.getElem?_map, hw, Option.map_some, Option.some.injEq] at habove
    have hmean : mean ≤ w := classOf_eq_above.1 habove
    exact classOf_eq_below.1 hbelow (Double.le_of_le_of_le hmean hle)

/-- There are classes unless there are only gaps, and then they go with the values. -/
theorem classified_pointClasses (s : Series) :
    (s.classified.pointClasses = none ↔ ∀ v ∈ s.values, v = none) ∧
      ∀ classes, s.classified.pointClasses = some classes → s.Fits classes := by
  have hclasses : s.classified.pointClasses =
      s.mean.map fun mean => s.values.map (classOf mean) := rfl
  rw [hclasses, Option.map_eq_none_iff, mean_eq_none]
  refine ⟨Iff.rfl, fun classes h => ?_⟩
  obtain ⟨mean, -, rfl⟩ := Option.map_eq_some_iff.1 h
  exact s.fits_classOf mean

/-- Classes are all that is added to a series. -/
@[simp] theorem uncolored_classified (s : Series) : s.classified.uncolored = s.uncolored := rfl

/-- The mean is that of the values, so classes that are there already make no difference. -/
@[simp] theorem classified_classified (s : Series) : s.classified.classified = s.classified := rfl

end Series

/-! ## Coloured models -/

namespace RenderModel

/-- The series of a model. -/
def series : RenderModel → List Series
  | categorical m => m.series
  | dualAxis m => [m.primary, m.secondary]
  | _ => []

/-- Some series has classes for its points. -/
def IsColored (m : RenderModel) : Prop :=
  ∃ s ∈ m.series, s.pointClasses ≠ none

/-- The model without the classes of its points. -/
def uncolored : RenderModel → RenderModel
  | categorical m => categorical { m with series := m.series.map Series.uncolored }
  | dualAxis m =>
    dualAxis { m with primary := m.primary.uncolored, secondary := m.secondary.uncolored }
  | m => m

/-- The model shows bars of a single series. -/
structure IsBarsOf (m : RenderModel) (bars : CategoricalModel) (s : Series) : Prop where
  /-- It shows these bars. -/
  model : m = categorical bars
  /-- They are drawn as bars. -/
  kind : bars.kind = .bar
  /-- The series is the only one. -/
  series : bars.series = [s]

/-- Bars of a single series have that series classified. -/
theorem colorize_of_bars {m : RenderModel} {bars : CategoricalModel} {s : Series}
    (h : m.IsBarsOf bars s) :
    m.colorize true = categorical { bars with series := [s.classified] } := by
  have hcolors : (true && bars.kind == .bar && bars.isSingleSeries) = true := by
    rw [CategoricalModel.isSingleSeries, h.kind, h.series]
    rfl
  rw [h.model, colorize, if_pos hcolors, h.series]
  rfl

/-- Whatever is not a single series of bars stays as it is, and so does everything unless colouring
is asked for. -/
theorem colorize_eq_self {enabled : Bool} {m : RenderModel}
    (h : ¬(enabled = true ∧ ∃ bars s, m.IsBarsOf bars s)) : m.colorize enabled = m := by
  cases m with
  | categorical c =>
    rw [colorize, if_neg]
    intro hcolors
    simp only [Bool.and_eq_true, CategoricalModel.isSingleSeries, beq_iff_eq] at hcolors
    obtain ⟨⟨henabled, hkind⟩, hlength⟩ := hcolors
    obtain ⟨s, hseries⟩ := List.length_eq_one_iff.1 hlength
    exact h ⟨henabled, c, s, rfl, hkind, hseries⟩
  | _ => rfl

/-- A model is coloured as bars of a single series, or stays as it is. -/
theorem colorize_cases (enabled : Bool) (m : RenderModel) :
    (enabled = true ∧ ∃ bars s, m.IsBarsOf bars s ∧
      m.colorize enabled = categorical { bars with series := [s.classified] }) ∨
    (¬(enabled = true ∧ ∃ bars s, m.IsBarsOf bars s) ∧ m.colorize enabled = m) := by
  by_cases h : enabled = true ∧ ∃ bars s, m.IsBarsOf bars s
  · obtain ⟨rfl, bars, s, hbars⟩ := h
    exact .inl ⟨rfl, bars, s, hbars, colorize_of_bars hbars⟩
  · exact .inr ⟨h, colorize_eq_self h⟩

/-- Colouring adds nothing to a model but classes. -/
theorem uncolored_colorize (enabled : Bool) (m : RenderModel) :
    (m.colorize enabled).uncolored = m.uncolored := by
  rcases m.colorize_cases enabled with ⟨-, bars, s, hbars, hcolored⟩ | ⟨-, hsame⟩
  · rw [hcolored, hbars.model, uncolored, uncolored, hbars.series, List.map_singleton,
      List.map_singleton, Series.uncolored_classified]
  · rw [hsame]

/-- Colouring again changes nothing, since single bars stay single bars. -/
theorem colorize_colorize (enabled : Bool) (m : RenderModel) :
    (m.colorize enabled).colorize enabled = m.colorize enabled := by
  rcases m.colorize_cases enabled with ⟨rfl, bars, s, hbars, hcolored⟩ | ⟨-, hsame⟩
  · have hagain : (m.colorize true).IsBarsOf { bars with series := [s.classified] } s.classified :=
      ⟨hcolored, hbars.kind, rfl⟩
    rw [colorize_of_bars hagain, hcolored, Series.classified_classified]
  · rw [hsame, hsame]

/-! ## What is drawn for a response -/

/-- The result, if there is one, has no classes. -/
def Plain (drawn : Except AdaptError RenderModel) : Prop :=
  ∀ m, drawn = .ok m → ¬m.IsColored

/-- A result that is made from another one has no classes if all that can be made has none. -/
theorem plain_bind {α : Type} {x : Except AdaptError α} {f : α → Except AdaptError RenderModel}
    (hf : ∀ a, Plain (f a)) : Plain (x >>= f) := by
  intro m h
  obtain ⟨a, -, ha⟩ := Outcome.bind_eq_ok.1 h
  exact hf a m ha

/-- A model whose series have no classes is plain. -/
theorem plain_ok {m : RenderModel} (h : ∀ s ∈ m.series, s.pointClasses = none) : Plain (.ok m) := by
  rintro _ ⟨⟩ ⟨s, hs, hclasses⟩
  exact hclasses (h s hs)

/-- A refusal has nothing to be coloured. -/
theorem plain_error (e : AdaptError) : Plain (.error e) :=
  nofun

/-- Figures are drawn without classes. -/
theorem plain_kpiOf (s : Spec) (rows : List Row) : Plain (kpiOf s rows) := by
  refine plain_bind fun key => ?_
  cases rows with
  | nil => exact plain_error _
  | cons row rest => exact plain_bind fun _ => plain_ok nofun

/-- The series of a grid have colours, but their points have no classes. -/
theorem plain_categoricalOf (kind : ChartKind) (s : Spec) (rows : List Row) :
    Plain (categoricalOf kind s rows) := by
  rw [categoricalOf_eq]
  refine plain_bind fun key => plain_bind fun groupBy => plain_bind fun grid => plain_ok ?_
  intro series hseries
  obtain ⟨⟨⟨name, values⟩, index⟩, -, rfl⟩ := List.mem_map.1 hseries
  rfl

/-- Both axes of a chart are drawn without classes. -/
theorem plain_dualAxisOf (s : Spec) (rows : List Row) : Plain (dualAxisOf s rows) := by
  refine plain_bind fun primary => plain_bind fun secondary => plain_bind fun groupBy =>
    plain_bind fun points => plain_ok ?_
  intro series hseries
  rcases List.mem_pair.1 hseries with rfl | rfl
  · rfl
  · rfl

/-- Nothing that is drawn for a response has classes. -/
theorem plain_ofResponse (displayCap : Nat) (kind : ChartKind) (s : Spec) (r : Response) :
    Plain (ofResponse displayCap kind s r) := by
  unfold ofResponse
  split
  · exact plain_error _
  · cases kind with
    | table => exact plain_ok nofun
    | kpi => exact plain_kpiOf s r.rows
    | histogram => exact plain_bind fun _ => plain_bind fun _ => plain_ok nofun
    | pie =>
      exact plain_bind fun _ => plain_bind fun _ => plain_bind fun _ => plain_ok nofun
    | funnel =>
      exact plain_bind fun _ => plain_bind fun _ => plain_bind fun _ => plain_ok nofun
    | bar => exact plain_categoricalOf .bar s r.rows
    | line => exact plain_categoricalOf .line s r.rows
    | area => exact plain_categoricalOf .area s r.rows
    | dualAxis => exact plain_dualAxisOf s r.rows

/-- What stands in for a chart that cannot be drawn has no classes. -/
theorem placeholder_not_isColored (e : AdaptError) : ¬e.placeholder.IsColored := by
  rintro ⟨s, hs, -⟩
  cases e with
  | emptyResult kind => cases hs
  | malformedResponse kind field => cases hs

end RenderModel

end Chartboard
