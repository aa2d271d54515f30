import Chartboard.Proofs.Render.Pivoting

/-!
# Answers as grids

Bars, lines and areas spread the rows of an answer over a grid. A row is of one category, and the
shape of the answer says which series it gives values for: that of the value, that of its cell in
the series column, or, in the wide shape, all its columns but the grouping one. Categories and
series stand in the order in which rows first have them, each of them once, and at every place there
is what the last row gives for it.
-/

namespace Chartboard

open Outcome

/-! ## Shapes of answers -/

/-- How rows say which series they give values for. -/
inductive GridShape where
  /-- There is one series, that of the value. -/
  | plain
  /-- The cell in a column names the series of the row. -/
  | long (subGroup : String)
  /-- Every column but the grouping one is a series. -/
  | wide

/-- The shape of some rows: long if all of them have the series column, wide if one does not. -/
def Spec.gridShape (s : Spec) (rows : List Row) : GridShape :=
  match s.effectiveSubGroup with
  | none => .plain
  | some subGroup => if rows.all fun row => row.contains subGroup then .long subGroup else .wide

namespace GridShape

variable (shape : GridShape) (groupBy key : String) (row : Row)

/-- The series that a row gives values for, in the order of its cells. -/
def series : List String :=
  match shape with
  | plain => [key]
  | long subGroup => (row.label? subGroup).toList
  | wide => row.keys.filter (· ≠ groupBy)

/-- What a row gives for a series, if it gives anything: a number or a gap. -/
def value? (series : String) : Option (Option Float) :=
  match shape with
  | plain => if series = key then row.value? key else none
  | long subGroup => if row.label? subGroup = some series then row.value? key else none
  | wide => if series = groupBy then none else row.value? series

/-- What a row gives for a category and a series: nothing if it is of another category. -/
def given? (category series : String) : Option (Option Float) :=
  if row.label? groupBy = some category then shape.value? groupBy key row series else none

/-- A row of an answer is read as a row of the grid. -/
structure Reads (row : Row) (cells : String × List (String × Option Float)) : Prop where
  /-- It is of the category of its label. -/
  category : row.label? groupBy = some cells.1
  /-- Its series are those that the row gives values for. -/
  series : cells.2.map Prod.fst = shape.series groupBy key row
  /-- Its values are those that the row gives. -/
  value : ∀ series, cells.2.reverse.lookup series = shape.value? groupBy key row series

end GridShape

namespace RenderModel

variable {kind : ChartKind} {s : Spec} {groupBy key : String} {row : Row} {rows : List Row}
  {cells : String × List (String × Option Float)}
  {grid : List (String × List (String × Option Float))}

/-! ## Rows of a grid -/

/-- Of one cell only its own label finds the value. -/
theorem lookup_singleton (label series : String) (value : Option Float) :
    [(label, value)].lookup series = if label = series then some value else none := by
  by_cases h : label = series
  · simp [h]
  · simp [List.lookup_cons, h, beq_eq_false_iff_ne.2 (Ne.symm h)]

/-- A row without a sub-group is read for the one series of its value. -/
theorem reads_plainRow (h : plainRow kind groupBy key row = .ok cells) :
    GridShape.plain.Reads groupBy key row cells := by
  obtain ⟨category, hcategory, h⟩ := bind_eq_ok.1 h
  obtain ⟨value, hvalue, h⟩ := bind_eq_ok.1 h
  cases h
  refine ⟨Row.labelAt_eq_ok.1 hcategory, rfl, fun series => ?_⟩
  simp only [GridShape.value?, Row.numberAt_eq_ok.1 hvalue, eq_comm (a := series)]
  exact lookup_singleton key series value

/-- A long row is read for the series that its sub-group names. -/
theorem reads_longRow {subGroup : String} (h : longRow kind groupBy subGroup key row = .ok cells) :
    (GridShape.long subGroup).Reads groupBy key row cells := by
  obtain ⟨category, hcategory, h⟩ := bind_eq_ok.1 h
  obtain ⟨label, hlabel, h⟩ := bind_eq_ok.1 h
  obtain ⟨value, hvalue, h⟩ := bind_eq_ok.1 h
  cases h
  have hlabel := Row.labelAt_eq_ok.1 hlabel
  refine ⟨Row.labelAt_eq_ok.1 hcategory, ?_, fun series => ?_⟩
  · rw [GridShape.series, hlabel]
    rfl
  · simp only [GridShape.value?, Row.numberAt_eq_ok.1 hvalue, hlabel, Option.some.injEq]
    exact lookup_singleton label series value

/-- A wide row is read for all columns but the grouping one. -/
theorem reads_wideRow (h : wideRow kind groupBy row = .ok cells) :
    GridShape.wide.Reads groupBy key row cells := by
  obtain ⟨category, hcategory, h⟩ := bind_eq_ok.1 h
  cases h
  refine ⟨Row.labelAt_eq_ok.1 hcategory, ?_, fun series => ?_⟩
  · rw [GridShape.series, Ledger.keys, List.filter_map, List.map_map]
    rfl
  · have hfound : ((row.erase groupBy).entries.map fun e => (e.1, e.2.asNumber?)).reverse.lookup
        series = ((row.erase groupBy).get? series).map Json.Value.asNumber? := by
      rw [← List.map_reverse, Ledger.lookup_map_values, Ledger.lookup_reverse_entries]
    refine hfound.trans ?_
    rw [Ledger.get?_erase, GridShape.value?, Row.value?]
    split
    · rfl
    · rfl

/-- Every row is read in the shape of the answer. -/
theorem reads_gridRows (h : gridRows kind s groupBy key rows = .ok grid) :
    List.Forall₂ ((s.gridShape rows).Reads groupBy key) rows grid := by
  unfold gridRows at h
  unfold Spec.gridShape
  cases hsub : s.effectiveSubGroup with
  | none =>
    rw [hsub] at h
    exact (mapM_eq_ok.1 h).imp fun _ _ => reads_plainRow
  | some subGroup =>
    rw [hsub] at h
    simp only at h ⊢
    split at h
    · rename_i hlong
      rw [if_pos hlong]
      exact (mapM_eq_ok.1 h).imp fun _ _ => reads_longRow
    · rename_i hwide
      rw [if_neg hwide]
      exact (mapM_eq_ok.1 h).imp fun _ _ => reads_wideRow

/-! ## Grids of rows -/

/-- Elements that belong together are found together. -/
theorem findSome?_of_forall₂ {α β γ : Type} {R : α → β → Prop} {f : α → Option γ}
    {g : β → Option γ} (hfg : ∀ x y, R x y → f x = g y) {xs : List α} {ys : List β}
    (h : List.Forall₂ R xs ys) : xs.findSome? f = ys.findSome? g := by
  induction h with
  | nil => rfl
  | cons hxy _ ih => rw [List.findSome?_cons, List.findSome?_cons, hfg _ _ hxy, ih]

section Reads

variable {shape : GridShape} (h : List.Forall₂ (shape.Reads groupBy key) rows grid)

include h

/-- The categories of the grid are the labels of the rows. -/
theorem categories_of_reads :
    (Pivot.ofRows grid).categories.keys = (rows.filterMap (·.label? groupBy)).eraseDups := by
  rw [Pivot.keys_categories_ofRows]
  congr 1
  induction h with
  | nil => rfl
  | cons hrow _ ih => simp only [List.map_cons, List.filterMap_cons, hrow.category, ih]

/-- The series of the grid are those that the rows give values for. -/
theorem series_of_reads :
    (Pivot.ofRows grid).series.keys = (rows.flatMap (shape.series groupBy key)).eraseDups := by
  rw [Pivot.keys_series_ofRows, Pivot.pointsOf, List.map_flatMap]
  congr 1
  induction h with
  | nil => rfl
  | cons hrow _ ih =>
    rw [List.flatMap_cons, List.flatMap_cons, ih, ← hrow.series, List.map_map]
    rfl

/-- The grid holds what the last row gives. -/
theorem get?_of_reads (category series : String) :
    (Pivot.ofRows grid).get? category series =
      rows.reverse.findSome? fun row => shape.given? groupBy key row category series := by
  rw [Pivot.get?_ofRows_last]
  refine (findSome?_of_forall₂ (fun row cells hrow => ?_) (List.rel_reverse h)).symm
  rw [GridShape.given?, hrow.category, hrow.value]
  simp only [Option.some.injEq]

end Reads

end RenderModel

/-! ## Models of grids -/

/-- A model is the grid of some rows. -/
structure CategoricalModel.IsGridOf (m : CategoricalModel) (kind : ChartKind) (s : Spec)
    (groupBy key : String) (rows : List Row) : Prop where
  /-- It is drawn as a chart of the kind. -/
  kind : m.kind = kind
  /-- The categories are the labels of the rows in the order in which they first come. -/
  categories : m.categories = (rows.filterMap (·.label? groupBy)).eraseDups
  /-- No category comes twice. -/
  categories_nodup : m.categories.Nodup
  /-- The series are those of the rows in the order in which they first come. -/
  series : m.series.map (·.key) =
    (rows.flatMap ((s.gridShape rows).series groupBy key)).eraseDups
  /-- No series comes twice. -/
  series_nodup : (m.series.map (·.key)).Nodup
  /-- Every series has one slot for each category. -/
  slots : ∀ series ∈ m.series, series.values.length = m.categories.length
  /-- At every place there is what the last row gives for it, and a gap if none gives anything. -/
  value : ∀ i j category series, m.categories[i]? = some category →
    (m.series.map (·.key))[j]? = some series →
    m.at? i j = some (rows.reverse.findSome? fun row =>
      (s.gridShape rows).given? groupBy key row category series).join
  /-- The series have the colours of the palette in turn. -/
  color : ∀ j series, m.series[j]? = some series →
    Rgb.palette[j % Rgb.palette.length]? = some series.color
  /-- Only series of bars or areas stand on top of each other, if that is wanted. -/
  stacked : m.stacked ↔
    (m.kind = .bar ∨ m.kind = .area) ∧ s.stacked ∧ ∃ subGroup, s.effectiveSubGroup = some subGroup

/-- Bars and areas can be stacked, and nothing else can. -/
theorem ChartKind.supportsStacking_iff {kind : ChartKind} :
    kind.supportsStacking ↔ kind = .bar ∨ kind = .area := by
  cases kind <;> decide

namespace RenderModel

variable {kind : ChartKind} {s : Spec} {groupBy key : String} {rows : List Row}
  {grid : List (String × List (String × Option Float))}

/-- The series of a model are those of its grid. -/
theorem keys_series_gridModel (kind : ChartKind) (s : Spec)
    (grid : List (String × List (String × Option Float))) :
    (gridModel kind s grid).series.map (·.key) = (Pivot.ofRows grid).series.keys := by
  refine List.ext_getElem? fun j => ?_
  rw [List.getElem?_map, key_getElem?_series]

/-- The model of the rows of a grid is their grid. -/
theorem isGridOf_gridModel (h : gridRows kind s groupBy key rows = .ok grid) :
    (gridModel kind s grid).IsGridOf kind s groupBy key rows where
  kind := rfl
  categories := categories_of_reads (reads_gridRows h)
  categories_nodup := (Pivot.ofRows grid).categories.nodup_keys
  series := by
    rw [keys_series_gridModel]
    exact series_of_reads (reads_gridRows h)
  series_nodup := by
    rw [keys_series_gridModel]
    exact (Pivot.ofRows grid).series.nodup_keys
  slots series hseries := by
    obtain ⟨j, hj⟩ := List.getElem?_of_mem hseries
    rw [getElem?_series] at hj
    obtain ⟨name, -, rfl⟩ := Option.map_eq_some_iff.1 hj
    exact List.length_map _
  value i j category series hcategory hseries := by
    rw [keys_series_gridModel] at hseries
    rw [at?_gridModel kind s hcategory hseries, get?_of_reads (reads_gridRows h)]
  color j series hj := by
    rw [getElem?_series] at hj
    obtain ⟨name, -, rfl⟩ := Option.map_eq_some_iff.1 hj
    exact Rgb.palette_ofIndex j
  stacked := by
    rw [← ChartKind.supportsStacking_iff, ← Option.isSome_iff_exists]
    show (s.stacked && kind.supportsStacking && s.effectiveSubGroup.isSome) = true ↔ _
    rw [Bool.and_eq_true, Bool.and_eq_true, and_assoc, and_left_comm]
    exact Iff.rfl

/-- Whatever the rows of an answer are, the bars, lines or areas that are drawn of it are the grid
of the rows. -/
theorem categorical_isGridOf {displayCap : Nat} (hkind : kind.supportsSubGroup) {r : Response}
    {drawn : RenderModel} (h : ofResponse displayCap kind s r = .ok drawn) :
    ∃ m groupBy key, drawn = .categorical m ∧ s.groupBy = some groupBy ∧
      s.valueKey = some key ∧ m.IsGridOf kind s groupBy key r.rows := by
  obtain ⟨-, key, groupBy, grid, hkey, hgroup, hgrid, rfl⟩ := (ofResponse_categorical hkind).1 h
  exact ⟨_, groupBy, key, rfl, hgroup, hkey, isGridOf_gridModel hgrid⟩

/-- The numbers of sales of a few years in two regions; no year is in all rows. -/
def yearResponse : Response where
  rows := [.ofList [("region", .string "East"), ("2023", .int 4), ("2024", .null)],
    .ofList [("2024", .int 7), ("region", .string "West")],
    .ofList [("region", .string "East"), ("2025", .int 5), ("2023", .null), ("2024", .int 6)]]

/-- Bars of the number of sales in each region, on top of each other by year. -/
def yearBars : Spec where
  kind := .bar
  groupBy := some "region"
  subGroup := some "year"
  valueColumn := some "region"
  aggregation := .count
  stacked := true

/-- The grid of two regions and three years. -/
def yearModel : CategoricalModel where
  kind := .bar
  categories := ["East", "West"]
  series := [
    { key := "2023", values := [none, none], color := Rgb.ofIndex 0 },
    { key := "2024", values := [some (Float.ofInt 6), some (Float.ofInt 7)]
      color := Rgb.ofIndex 1 },
    { key := "2025", values := [some (Float.ofInt 5), none], color := Rgb.ofIndex 2 }]
  stacked := true

/-- The stacked years of two regions are the grid of their rows. -/
theorem categorical_isGridOf_yearBars :
    ChartKind.bar.supportsSubGroup ∧
      ofResponse 100 .bar yearBars yearResponse = .ok (.categorical yearModel) ∧
      yearModel.IsGridOf .bar yearBars "region" "region_count" yearResponse.rows := by
  have hdrawn : ofResponse 100 .bar yearBars yearResponse = .ok (.categorical yearModel) := rfl
  obtain ⟨m, groupBy, key, hm, hgroup, hkey, hgrid⟩ := categorical_isGridOf rfl hdrawn
  cases hm
  cases hgroup
  cases hkey
  exact ⟨rfl, hdrawn, hgrid⟩

end RenderModel

end Chartboard
