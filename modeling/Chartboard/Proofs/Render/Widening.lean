import Chartboard.Proofs.Render.Gridding

/-!
# Long and wide answers

An answer of the long shape has a row for each category and series, one of the wide shape a row for
each category with a cell for each series. Merging the rows of each category makes a long answer
wide, and bars, lines or areas show the same either way. Only the order of the series may differ,
because the wide answer names all series of the first category before those of the second one; it
is the same where the rows of each category stand together.
-/

namespace Chartboard

open Json (Value)
open Outcome

/-! ## Elements by their labels -/

section Regrouping

variable {α β : Type} [DecidableEq β]

omit [DecidableEq β] in
/-- Equal labels stand together: no other one is between them. -/
def Contiguous (labels : List β) : Prop :=
  ∀ a b, [a, b, a].Sublist labels → a = b

/-- The elements label by label, in the order in which the labels first come. -/
def regroup (label : α → β) (xs : List α) : List α :=
  (xs.map label).eraseDups.flatMap fun b => xs.filter fun x => label x = b

variable (label : α → β)

/-- The elements with the first label come first, and then the others label by label. -/
theorem regroup_cons (x : α) (xs : List α) :
    regroup label (x :: xs) =
      x :: (xs.filter (fun y => label y = label x) ++
        regroup label (xs.filter fun y => ¬label y = label x)) := by
  have hlabels : (xs.map label).filter (fun b => !b == label x) =
      (xs.filter fun y => ¬label y = label x).map label := by
    rw [List.filter_map]
    refine congrArg (List.map label) (List.filter_congr fun y _ => ?_)
    rw [Function.comp_apply, beq_eq_decide, decide_not]
  have hfirst : (x :: xs).filter (fun y => label y = label x) =
      x :: xs.filter fun y => label y = label x := List.filter_cons_of_pos (decide_eq_true rfl)
  rw [regroup, List.map_cons, List.eraseDups_cons, hlabels, List.flatMap_cons, hfirst,
    List.cons_append, regroup]
  -- Under any other label, the elements with the first one are passed over.
  refine congrArg (fun others => x :: (_ ++ others)) (List.flatMap_congr fun b hb => ?_)
  obtain ⟨y, hy, rfl⟩ := List.mem_map.1 (List.mem_eraseDups.1 hb)
  have hne : label y ≠ label x := of_decide_eq_true (List.mem_filter.1 hy).2
  rw [List.filter_cons_of_neg (by simpa using hne.symm), List.filter_filter]
  refine List.filter_congr fun z _ => ?_
  by_cases hz : label z = label y
  · simp [hz, hne]
  · simp [hz]

/-- Nothing is lost and nothing is added. -/
theorem regroup_perm (xs : List α) : (regroup label xs).Perm xs := by
  match xs with
  | [] => exact .nil
  | x :: xs =>
    have hrest := regroup_perm (xs.filter fun y => ¬label y = label x)
    have hparts := List.filter_append_perm (fun y => decide (label y = label x)) xs
    simp only [← decide_not] at hparts
    rw [regroup_cons]
    exact ((hrest.append_left _).trans hparts).cons x
termination_by xs.length
decreasing_by exact Nat.lt_succ_of_le (List.length_filter_le _ xs)

omit [DecidableEq β] in
/-- What has a property as long as nothing without it has come is a first part of the list. -/
theorem filter_append_filter_not {p : α → Prop} [DecidablePred p] {xs : List α}
    (h : xs.Pairwise fun x y => p y → p x) :
    xs.filter (fun x => p x) ++ xs.filter (fun x => ¬p x) = xs := by
  induction xs with
  | nil => rfl
  | cons x xs ih =>
    obtain ⟨hx, hxs⟩ := List.pairwise_cons.1 h
    by_cases hp : p x
    · simp only [List.filter_cons, hp, not_true_eq_false, decide_true, decide_false, if_true,
        Bool.false_eq_true, if_false, List.cons_append, ih hxs]
    · have hnone : ∀ y ∈ x :: xs, ¬p y := by
        intro y hy
        rcases List.mem_cons.1 hy with rfl | hy
        · exact hp
        · exact fun hpy => hp (hx y hy hpy)
      rw [List.filter_eq_nil_iff.2 fun y hy => by simpa using hnone y hy, List.nil_append,
        List.filter_eq_self]
      exact fun y hy => decide_eq_true (hnone y hy)

/-- Elements of which equal labels stand together are grouped already. -/
theorem regroup_of_contiguous {xs : List α} (h : Contiguous (xs.map label)) :
    regroup label xs = xs := by
  match xs, h with
  | [], _ => rfl
  | x :: xs, h =>
    -- Once there is another label, the first one does not come back.
    have hlast : xs.Pairwise fun y z => label z = label x → label y = label x := by
      rw [List.pairwise_iff_forall_sublist]
      intro y z hyz hz
      have hlabels := (hyz.map label).cons_cons (label x)
      rw [List.map_cons, List.map_cons, List.map_nil, hz] at hlabels
      exact (h _ _ hlabels).symm
    have hrest : Contiguous ((xs.filter fun y => ¬label y = label x).map label) := fun a b hab =>
      h a b ((hab.trans (List.filter_sublist.map label)).cons (label x))
    rw [regroup_cons, regroup_of_contiguous hrest, filter_append_filter_not hlast]
termination_by xs.length
decreasing_by exact Nat.lt_succ_of_le (List.length_filter_le _ xs)

end Regrouping

/-! ## Wide answers -/

/-- What a row of a long answer adds to the row of its category: the cell of the category, and its
value under the name of its series. -/
def Row.spread? (groupBy subGroup key : String) (row : Row) : Option (List (String × Value)) := do
  let group ← row.get? groupBy
  let series ← row.label? subGroup
  let value ← row.get? key
  some [(groupBy, group), (series, value)]

/-- One row for the rows of a category. -/
def mergeRows (groupBy subGroup key : String) (rows : List Row) : Row :=
  .ofList (rows.filterMap (Row.spread? groupBy subGroup key)).flatten

/-- The rows of a long answer, those of each category merged into one. -/
def widen (groupBy subGroup key : String) (rows : List Row) : List Row :=
  (rows.filterMap (·.label? groupBy)).eraseDups.map fun category =>
    mergeRows groupBy subGroup key (rows.filter fun row => row.label? groupBy = some category)

/-- The rows are those of a long answer. -/
structure LongRows (groupBy subGroup key : String) (rows : List Row) : Prop where
  /-- Categories and series have a column each. -/
  columns : groupBy ≠ subGroup
  /-- Every row has a category, a series and a value. -/
  cells : ∀ row ∈ rows, groupBy ∈ row.keys ∧ subGroup ∈ row.keys ∧ key ∈ row.keys
  /-- No two rows are of one category and one series. -/
  apart : rows.Pairwise fun row other =>
    ¬(row.label? groupBy = other.label? groupBy ∧ row.label? subGroup = other.label? subGroup)
  /-- No series is called like one of the columns. -/
  names : ∀ row ∈ rows, row.label? subGroup ≠ some groupBy ∧ row.label? subGroup ≠ some subGroup

/-- A row of a long answer is a point. -/
structure Row.IsPoint (groupBy subGroup key : String) (row : Row) (p : Point) : Prop where
  /-- Its label is the category. -/
  category : row.label? groupBy = some p.category
  /-- Its series is that of the point. -/
  series : row.label? subGroup = some p.series
  /-- Its number is that of the point, and it has a gap where the point has one. -/
  value : row.value? key = some p.value

section Merging

variable {groupBy subGroup key : String} {row : Row} {rows : List Row} {p : Point}
  {points : List Point}

/-- Rows with all three cells are points. -/
theorem exists_points_of_cells
    (h : ∀ row ∈ rows, groupBy ∈ row.keys ∧ subGroup ∈ row.keys ∧ key ∈ row.keys) :
    ∃ points, List.Forall₂ (Row.IsPoint groupBy subGroup key) rows points := by
  induction rows with
  | nil => exact ⟨[], .nil⟩
  | cons row rest ih =>
    obtain ⟨points, hpoints⟩ := ih fun other hother => h other (List.mem_cons_of_mem row hother)
    obtain ⟨hgroup, hsub, hkey⟩ := h row List.mem_cons_self
    obtain ⟨group, hgroup⟩ := Ledger.mem_keys_iff.1 hgroup
    obtain ⟨series, hseries⟩ := Ledger.mem_keys_iff.1 hsub
    obtain ⟨value, hvalue⟩ := Ledger.mem_keys_iff.1 hkey
    refine ⟨⟨group.label, series.label, value.asNumber?⟩ :: points, .cons ⟨?_, ?_, ?_⟩ hpoints⟩
    · rw [Row.label?, hgroup, Option.map_some]
    · rw [Row.label?, hseries, Option.map_some]
    · rw [Row.value?, hvalue, Option.map_some]

/-- Every point is that of some row. -/
theorem exists_row_of_point (h : List.Forall₂ (Row.IsPoint groupBy subGroup key) rows points)
    (hp : p ∈ points) : ∃ row ∈ rows, row.IsPoint groupBy subGroup key p := by
  induction h with
  | nil => cases hp
  | cons hrow _ ih =>
    rcases List.mem_cons.1 hp with rfl | hp
    · exact ⟨_, List.mem_cons_self, hrow⟩
    · obtain ⟨row, hmem, hpoint⟩ := ih hp
      exact ⟨row, List.mem_cons_of_mem _ hmem, hpoint⟩

/-- The labels of the rows are the categories of the points. -/
theorem labels_of_points (h : List.Forall₂ (Row.IsPoint groupBy subGroup key) rows points) :
    rows.filterMap (·.label? groupBy) = points.map (·.category) := by
  induction h with
  | nil => rfl
  | cons hrow _ ih => simp only [List.filterMap_cons, hrow.category, ih, List.map_cons]

/-- The rows of a category are the points of the category. -/
theorem points_of_category (h : List.Forall₂ (Row.IsPoint groupBy subGroup key) rows points)
    (category : String) :
    List.Forall₂ (Row.IsPoint groupBy subGroup key)
      (rows.filter fun row => row.label? groupBy = some category)
      (points.filter fun p => p.category = category) := by
  refine List.rel_filter (fun row p hrow => ?_) h
  simp only [decide_eq_true_eq, hrow.category, Option.some.injEq]

/-- The rows of a long answer are points that do not meet. -/
theorem LongRows.points_apart (h : LongRows groupBy subGroup key rows)
    (hpoints : List.Forall₂ (Row.IsPoint groupBy subGroup key) rows points) :
    points.Pairwise fun p q => ¬p.Meets q := by
  have hapart := h.apart
  clear h
  induction hpoints with
  | nil => exact .nil
  | cons hrow hrest ih =>
    obtain ⟨hfirst, hothers⟩ := List.pairwise_cons.1 hapart
    refine .cons (fun q hq hmeets => ?_) (ih hothers)
    obtain ⟨other, hother, hrowq⟩ := exists_row_of_point hrest hq
    exact hfirst other hother ⟨by rw [hrow.category, hrowq.category, hmeets.1],
      by rw [hrow.series, hrowq.series, hmeets.2]⟩

/-- No series of a long answer is called like one of the columns. -/
theorem LongRows.series_ne (h : LongRows groupBy subGroup key rows)
    (hpoints : List.Forall₂ (Row.IsPoint groupBy subGroup key) rows points) (hp : p ∈ points) :
    p.series ≠ groupBy ∧ p.series ≠ subGroup := by
  obtain ⟨row, hrow, hpoint⟩ := exists_row_of_point hpoints hp
  obtain ⟨hgroup, hsub⟩ := h.names row hrow
  rw [hpoint.series, Ne, Option.some.injEq] at hgroup hsub
  exact ⟨hgroup, hsub⟩

/-! ## Merged rows -/

/-- A row adds the cell of its category, and its number under the name of its series. -/
theorem Row.IsPoint.spread? (h : row.IsPoint groupBy subGroup key p) :
    ∃ group value, row.spread? groupBy subGroup key = some [(groupBy, group), (p.series, value)] ∧
      group.label = p.category ∧ value.asNumber? = p.value := by
  obtain ⟨group, hgroup, hlabel⟩ := Option.map_eq_some_iff.1 h.category
  obtain ⟨value, hvalue, hnumber⟩ := Option.map_eq_some_iff.1 h.value
  refine ⟨group, value, ?_, hlabel, hnumber⟩
  simp only [Row.spread?, hgroup, h.series, hvalue, Option.bind_eq_bind, Option.bind_some]

/-- What rows of one category write, apart from the category, are the values of their points. -/
theorem writes_of_points (h : List.Forall₂ (Row.IsPoint groupBy subGroup key) rows points)
    (hnames : ∀ p ∈ points, p.series ≠ groupBy) :
    (((rows.filterMap (Row.spread? groupBy subGroup key)).flatten.filter
        fun w => w.1 ≠ groupBy).map fun w => (w.1, w.2.asNumber?)) =
      points.map fun p => (p.series, p.value) := by
  induction h with
  | nil => rfl
  | @cons row p rows points hrow _ ih =>
    obtain ⟨group, value, hspread, -, hnumber⟩ := hrow.spread?
    have hne : p.series ≠ groupBy := hnames p List.mem_cons_self
    have hrest := ih fun q hq => hnames q (List.mem_cons_of_mem p hq)
    rw [List.filterMap_cons_some hspread, List.flatten_cons, List.filter_append, List.map_append,
      hrest, List.map_cons]
    simp [hne, hnumber]

/-- What rows write is the cell of a category or the number of a point. -/
theorem mem_writes (h : List.Forall₂ (Row.IsPoint groupBy subGroup key) rows points)
    {w : String × Value}
    (hw : w ∈ (rows.filterMap (Row.spread? groupBy subGroup key)).flatten) :
    ∃ p ∈ points, (w.1 = groupBy ∧ w.2.label = p.category) ∨ w.1 = p.series := by
  induction h with
  | nil => cases hw
  | @cons row p rows points hrow _ ih =>
    obtain ⟨group, value, hspread, hlabel, -⟩ := hrow.spread?
    rw [List.filterMap_cons_some hspread, List.flatten_cons, List.mem_append] at hw
    rcases hw with hw | hw
    · rcases List.mem_pair.1 hw with rfl | rfl
      · exact ⟨p, List.mem_cons_self, .inl ⟨rfl, hlabel⟩⟩
      · exact ⟨p, List.mem_cons_self, .inr rfl⟩
    · obtain ⟨q, hq, hcell⟩ := ih hw
      exact ⟨q, List.mem_cons_of_mem p hq, hcell⟩

/-- A merged row has no series column. -/
theorem not_mem_keys_mergeRows
    (h : List.Forall₂ (Row.IsPoint groupBy subGroup key) rows points)
    (hcolumns : groupBy ≠ subGroup) (hnames : ∀ p ∈ points, p.series ≠ subGroup) :
    subGroup ∉ (mergeRows groupBy subGroup key rows).keys := by
  intro hmem
  obtain ⟨v, -, hw⟩ := Ledger.exists_of_mem_writes (Ledger.mem_keys_ofList.1 hmem)
  obtain ⟨p, hp, ⟨hgroup, -⟩ | hseries⟩ := mem_writes h hw
  · exact hcolumns hgroup.symm
  · exact hnames p hp hseries.symm

/-- A merged row is of the category of its rows. -/
theorem label?_mergeRows (h : List.Forall₂ (Row.IsPoint groupBy subGroup key) rows points)
    (hne : points ≠ []) (hnames : ∀ p ∈ points, p.series ≠ groupBy) {category : String}
    (hcategory : ∀ p ∈ points, p.category = category) :
    (mergeRows groupBy subGroup key rows).label? groupBy = some category := by
  have hmem : groupBy ∈
      (rows.filterMap (Row.spread? groupBy subGroup key)).flatten.map Prod.fst := by
    cases h with
    | nil => exact absurd rfl hne
    | cons hrow _ =>
      obtain ⟨group, value, hspread, -⟩ := hrow.spread?
      rw [List.filterMap_cons_some hspread]
      exact List.mem_cons_self
  obtain ⟨v, hv, hw⟩ := Ledger.exists_of_mem_writes hmem
  rw [Row.label?, mergeRows, hv, Option.map_some]
  obtain ⟨p, hp, ⟨-, hlabel⟩ | hseries⟩ := mem_writes h hw
  · rw [hlabel, hcategory p hp]
  · exact absurd hseries.symm (hnames p hp)

/-- A merged row is read as the points of its rows. -/
theorem wideRow_mergeRows (kind : ChartKind)
    (h : List.Forall₂ (Row.IsPoint groupBy subGroup key) rows points) (hne : points ≠ [])
    (hnames : ∀ p ∈ points, p.series ≠ groupBy) {category : String}
    (hcategory : ∀ p ∈ points, p.category = category)
    (hapart : points.Pairwise fun p q => ¬p.Meets q) :
    RenderModel.wideRow kind groupBy (mergeRows groupBy subGroup key rows) =
      .ok (category, points.map fun p => (p.series, p.value)) := by
  have hwrites := writes_of_points h hnames
  have hdistinct : (((rows.filterMap (Row.spread? groupBy subGroup key)).flatten.filter
      fun w => w.1 ≠ groupBy).map Prod.fst).Nodup := by
    have hseries := congrArg (List.map Prod.fst) hwrites
    rw [List.map_map, List.map_map] at hseries
    refine (congrArg List.Nodup hseries).mpr ?_
    refine List.pairwise_map.2 (hapart.imp_of_mem fun {p q} hp hq hnot hsame => hnot ⟨?_, hsame⟩)
    rw [hcategory p hp, hcategory q hq]
  have hentries : ((mergeRows groupBy subGroup key rows).erase groupBy).entries =
      (rows.filterMap (Row.spread? groupBy subGroup key)).flatten.filter
        fun w => w.1 ≠ groupBy := by
    rw [mergeRows, Ledger.erase_ofList, Ledger.entries_ofList_of_nodup hdistinct]
  refine bind_eq_ok.2 ⟨category,
    Row.labelAt_eq_ok.2 (label?_mergeRows h hne hnames hcategory), ?_⟩
  rw [← hwrites, ← hentries]
  rfl

end Merging

/-! ## Grids of wide answers -/

namespace CategoricalModel

/-- Two models show the same: the same values for every category and series. The series may stand in
another order and, with it, have other colours. -/
structure ShowsSame (m other : CategoricalModel) : Prop where
  /-- They are charts of one kind. -/
  kind : m.kind = other.kind
  /-- The categories are the same, in the same order. -/
  categories : m.categories = other.categories
  /-- The series are the same, each with its values. -/
  series : (m.series.map fun x => (x.key, x.values)).Perm
    (other.series.map fun x => (x.key, x.values))
  /-- The series stand on top of each other in both or in none. -/
  stacked : m.stacked = other.stacked

end CategoricalModel

namespace RenderModel

variable {kind : ChartKind} {s : Spec} {groupBy subGroup key : String} {rows : List Row}
  {points : List Point} {grid other : List (String × List (String × Option Float))}

/-- The rows of the grid of a wide answer. -/
def wideGrid (points : List Point) : List (String × List (String × Option Float)) :=
  (points.map (·.category)).eraseDups.map fun category =>
    (category, (points.filter fun p => p.category = category).map fun p => (p.series, p.value))

/-- The wide grid has the categories of its points, in the order in which they first come. -/
theorem keys_categories_wideGrid (points : List Point) :
    (Pivot.ofRows (wideGrid points)).categories.keys = (points.map (·.category)).eraseDups := by
  have hcategories : (wideGrid points).map Prod.fst = (points.map (·.category)).eraseDups := by
    rw [wideGrid, List.map_map]
    exact List.map_id _
  rw [Pivot.keys_categories_ofRows, hcategories, eraseDups_of_nodup (nodup_eraseDups _)]

/-- A wide answer has the points of the long one category by category. -/
theorem pointsOf_wideGrid (points : List Point) :
    Pivot.pointsOf (wideGrid points) = regroup (·.category) points := by
  rw [Pivot.pointsOf, wideGrid, List.flatMap_map, regroup]
  refine List.flatMap_congr fun category _ => ?_
  rw [List.map_map]
  refine (List.map_congr_left fun p hp => ?_).trans (List.map_id _)
  have hcategory : p.category = category := of_decide_eq_true (List.mem_filter.1 hp).2
  rw [Function.comp_apply, ← hcategory]
  rfl

/-- The model depends on the categories and the points alone. -/
theorem gridModel_congr (kind : ChartKind) (s : Spec)
    (hcategories : (Pivot.ofRows grid).categories.keys = (Pivot.ofRows other).categories.keys)
    (hpoints : Pivot.pointsOf grid = Pivot.pointsOf other) :
    gridModel kind s grid = gridModel kind s other := by
  have hseries : (Pivot.ofRows grid).toSeries = (Pivot.ofRows other).toSeries := by
    simp only [Pivot.toSeries_eq, Pivot.keys_series_ofRows, Pivot.get?_ofRows, hcategories, hpoints]
  rw [gridModel, gridModel, hcategories, hseries]

/-- The series of a model with their values. -/
theorem keyed_series_gridModel (kind : ChartKind) (s : Spec)
    (grid : List (String × List (String × Option Float))) :
    ((gridModel kind s grid).series.map fun x => (x.key, x.values)) =
      (Pivot.ofRows grid).series.keys.map fun series =>
        (series, (Pivot.ofRows grid).categories.keys.map fun category =>
          ((Pivot.ofRows grid).get? category series).join) := by
  have hkeys := List.zipIdx_map_fst 0 (Pivot.ofRows grid).series.keys
  show ((Pivot.ofRows grid).toSeries.map fun x => (x.key, x.values)) = _
  rw [Pivot.toSeries_eq, List.map_map]
  conv_rhs => rw [← hkeys, List.map_map]
  rfl

/-- Points that do not meet are shown the same in any order, as long as the categories are. -/
theorem showsSame_gridModel (kind : ChartKind) (s : Spec)
    (hcategories : (Pivot.ofRows grid).categories.keys = (Pivot.ofRows other).categories.keys)
    (hpoints : (Pivot.pointsOf other).Perm (Pivot.pointsOf grid))
    (hapart : (Pivot.pointsOf grid).Pairwise fun p q => ¬p.Meets q) :
    (gridModel kind s grid).ShowsSame (gridModel kind s other) where
  kind := rfl
  categories := hcategories
  stacked := rfl
  series := by
    have hapart' : (Pivot.pointsOf other).Pairwise fun p q => ¬p.Meets q :=
      hapart.perm hpoints.symm fun hnot hmeets => hnot ⟨hmeets.1.symm, hmeets.2.symm⟩
    have hget : ∀ category series, (Pivot.ofRows grid).get? category series =
        (Pivot.ofRows other).get? category series := by
      intro category series
      refine Option.ext fun value => ?_
      rw [← Pivot.get?_pointsOf, ← Pivot.get?_pointsOf, get?_eq_some_iff_mem hapart,
        get?_eq_some_iff_mem hapart', hpoints.mem_iff]
    have hkeys : (Pivot.ofRows grid).series.keys.Perm (Pivot.ofRows other).series.keys := by
      rw [Pivot.keys_series_ofRows, Pivot.keys_series_ofRows,
        List.perm_ext_iff_of_nodup (nodup_eraseDups _) (nodup_eraseDups _)]
      intro series
      rw [List.mem_eraseDups, List.mem_eraseDups, (hpoints.map (·.series)).mem_iff]
    rw [keyed_series_gridModel, keyed_series_gridModel, hcategories]
    simp only [hget]
    exact hkeys.map _

/-- The grid of the points and the wide one have the same categories. -/
theorem keys_categories_eq (points : List Point) :
    (Pivot.ofRows (points.map Point.gridRow)).categories.keys =
      (Pivot.ofRows (wideGrid points)).categories.keys := by
  rw [keys_categories_wideGrid, Pivot.keys_categories_ofRows, List.map_map]
  rfl

/-- Points that do not meet are shown the same in the wide shape. -/
theorem showsSame_wideGrid (kind : ChartKind) (s : Spec)
    (h : points.Pairwise fun p q => ¬p.Meets q) :
    (pointModel kind s points).ShowsSame (gridModel kind s (wideGrid points)) := by
  refine showsSame_gridModel kind s (keys_categories_eq points) ?_ ?_
  · rw [pointsOf_wideGrid, Pivot.pointsOf_gridRows]
    exact regroup_perm _ points
  · rwa [Pivot.pointsOf_gridRows]

/-- Points of which those of each category stand together are shown in the same way. -/
theorem gridModel_wideGrid (kind : ChartKind) (s : Spec)
    (h : Contiguous (points.map (·.category))) :
    gridModel kind s (wideGrid points) = pointModel kind s points := by
  refine gridModel_congr kind s (keys_categories_eq points).symm ?_
  rw [pointsOf_wideGrid, Pivot.pointsOf_gridRows, regroup_of_contiguous _ h]

/-- The rows of a long answer are read as their points. -/
theorem gridRows_long (kind : ChartKind) (hsub : s.effectiveSubGroup = some subGroup)
    (h : LongRows groupBy subGroup key rows)
    (hpoints : List.Forall₂ (Row.IsPoint groupBy subGroup key) rows points) :
    gridRows kind s groupBy key rows = .ok (points.map Point.gridRow) := by
  have hlong : (rows.all fun row => row.contains subGroup) = true :=
    List.all_eq_true.2 fun row hrow => Ledger.contains_iff.2 (h.cells row hrow).2.1
  simp only [gridRows, hsub, hlong, if_true]
  rw [mapM_eq_ok, List.forall₂_map_right_iff]
  refine hpoints.imp fun row p hpoint => ?_
  exact bind_eq_ok.2 ⟨_, Row.labelAt_eq_ok.2 hpoint.category, bind_eq_ok.2
    ⟨_, Row.labelAt_eq_ok.2 hpoint.series, bind_eq_ok.2
      ⟨_, Row.numberAt_eq_ok.2 hpoint.value, rfl⟩⟩⟩

/-- No row of the wide answer has a series column. -/
theorem not_mem_keys_widen (h : LongRows groupBy subGroup key rows)
    (hpoints : List.Forall₂ (Row.IsPoint groupBy subGroup key) rows points) :
    ∀ wide ∈ widen groupBy subGroup key rows, subGroup ∉ wide.keys := by
  intro wide hwide
  obtain ⟨category, -, rfl⟩ := List.mem_map.1 hwide
  refine not_mem_keys_mergeRows (points_of_category hpoints category) h.columns fun p hp => ?_
  exact (h.series_ne hpoints (List.mem_of_mem_filter hp)).2

/-- The merged rows are read as the points of their categories. -/
theorem gridRows_widen (kind : ChartKind) (hsub : s.effectiveSubGroup = some subGroup)
    (h : LongRows groupBy subGroup key rows) (hne : widen groupBy subGroup key rows ≠ [])
    (hpoints : List.Forall₂ (Row.IsPoint groupBy subGroup key) rows points) :
    gridRows kind s groupBy key (widen groupBy subGroup key rows) = .ok (wideGrid points) := by
  -- No merged row has the series column, so the answer is read in the wide shape.
  have hwide :
      ((widen groupBy subGroup key rows).all fun row => row.contains subGroup) = false := by
    obtain ⟨wide, hmem⟩ := List.exists_mem_of_ne_nil _ hne
    refine List.all_eq_false.2 ⟨wide, hmem, fun hcontains => ?_⟩
    exact not_mem_keys_widen h hpoints wide hmem (Ledger.contains_iff.1 hcontains)
  simp only [gridRows, hsub, hwide, Bool.false_eq_true, if_false]
  rw [mapM_eq_ok, widen, wideGrid, List.forall₂_map_left_iff, List.forall₂_map_right_iff,
    labels_of_points hpoints, List.forall₂_same]
  intro category hcategory
  have hmem : ∀ p ∈ points.filter fun p => p.category = category,
      p ∈ points ∧ p.category = category :=
    fun p hp => ⟨List.mem_of_mem_filter hp, of_decide_eq_true (List.mem_filter.1 hp).2⟩
  have hsome : (points.filter fun p => p.category = category) ≠ [] := by
    obtain ⟨p, hp, rfl⟩ := List.mem_map.1 (List.mem_eraseDups.1 hcategory)
    exact List.ne_nil_of_mem (List.mem_filter.2 ⟨hp, decide_eq_true rfl⟩)
  exact wideRow_mergeRows kind (points_of_category hpoints category) hsome
    (fun p hp => (h.series_ne hpoints (hmem p hp).1).1) (fun p hp => (hmem p hp).2)
    ((h.points_apart hpoints).filter _)

/-- Only an answer without rows is merged into one without rows. -/
theorem widen_eq_nil (hpoints : List.Forall₂ (Row.IsPoint groupBy subGroup key) rows points) :
    widen groupBy subGroup key rows = [] ↔ rows = [] := by
  rw [widen, List.map_eq_nil_iff, labels_of_points hpoints, List.eq_nil_iff_forall_not_mem]
  simp only [List.mem_eraseDups]
  rw [← List.eq_nil_iff_forall_not_mem, List.map_eq_nil_iff]
  constructor
  · rintro rfl
    exact List.forall₂_nil_right_iff.1 hpoints
  · rintro rfl
    exact List.forall₂_nil_left_iff.1 hpoints

/-- A long answer and the wide one with its rows merged show the same in bars, lines and areas, and
where the rows of each category stand together there is no difference at all. -/
theorem ofResponse_widen {displayCap : Nat} (hkind : kind.supportsSubGroup)
    (hgroup : s.groupBy = some groupBy) (hsub : s.effectiveSubGroup = some subGroup)
    (hkey : s.valueKey = some key) {long wide : Response}
    (h : LongRows groupBy subGroup key long.rows)
    (hwide : wide.rows = widen groupBy subGroup key long.rows) :
    (long.rows ≠ [] → ∃ m other, ofResponse displayCap kind s long = .ok (.categorical m) ∧
      ofResponse displayCap kind s wide = .ok (.categorical other) ∧ m.ShowsSame other) ∧
    (Contiguous (long.rows.filterMap (·.label? groupBy)) →
      ofResponse displayCap kind s wide = ofResponse displayCap kind s long) := by
  obtain ⟨points, hpoints⟩ := exists_points_of_cells h.cells
  have hempty : wide.rows = [] ↔ long.rows = [] := by rw [hwide, widen_eq_nil hpoints]
  have hlong : long.rows ≠ [] → ofResponse displayCap kind s long =
      .ok (.categorical (pointModel kind s points)) := fun hne =>
    (ofResponse_categorical hkind).2
      ⟨hne, key, groupBy, _, hkey, hgroup, gridRows_long kind hsub h hpoints, rfl⟩
  have hmerged : long.rows ≠ [] → ofResponse displayCap kind s wide =
      .ok (.categorical (gridModel kind s (wideGrid points))) := by
    intro hne
    have hsome : wide.rows ≠ [] := fun hnone => hne (hempty.1 hnone)
    refine (ofResponse_categorical hkind).2 ⟨hsome, key, groupBy, _, hkey, hgroup, ?_, rfl⟩
    rw [hwide] at hsome ⊢
    exact gridRows_widen kind hsub h hsome hpoints
  constructor
  · exact fun hne => ⟨_, _, hlong hne, hmerged hne,
      showsSame_wideGrid kind s (h.points_apart hpoints)⟩
  · intro hcontiguous
    by_cases hne : long.rows = []
    · rw [ofResponse_of_isEmpty displayCap kind s (hempty.2 hne),
        ofResponse_of_isEmpty displayCap kind s hne]
    · rw [labels_of_points hpoints] at hcontiguous
      rw [hlong hne, hmerged hne, gridModel_wideGrid kind s hcontiguous]

/-- The row of a region and a year. -/
def yearRow (region year : String) (count : Value) : Row :=
  .ofList [("region", .string region), ("year", .string year), ("region_count", count)]

/-- Sales of a few years, those in the East with those in the West between them. -/
def mixedYears : Response where
  rows := [yearRow "East" "2023" (.int 4), yearRow "West" "2024" (.int 7),
    yearRow "East" "2025" .null]

/-- The same sales, those in the East first. -/
def sortedYears : Response where
  rows := [yearRow "East" "2023" (.int 4), yearRow "East" "2025" .null,
    yearRow "West" "2024" (.int 7)]

/-- Some sales with a row for each region. -/
def byRegion (r : Response) : Response where
  rows := widen "region" "year" "region_count" r.rows

/-- Merging mixed years moves a series; merging sorted ones changes nothing. -/
theorem ofResponse_widen_years :
    (LongRows "region" "year" "region_count" mixedYears.rows ∧
      ∃ m other, ofResponse 100 .bar yearBars mixedYears = .ok (.categorical m) ∧
        ofResponse 100 .bar yearBars (byRegion mixedYears) = .ok (.categorical other) ∧
        m.ShowsSame other ∧ m.series.map (·.key) = ["2023", "2024", "2025"] ∧
        other.series.map (·.key) = ["2023", "2025", "2024"]) ∧
    LongRows "region" "year" "region_count" sortedYears.rows ∧
      ofResponse 100 .bar yearBars (byRegion sortedYears) =
        ofResponse 100 .bar yearBars sortedYears := by
  have hmixed : LongRows "region" "year" "region_count" mixedYears.rows :=
    ⟨by decide, by decide, by decide, by decide⟩
  have hsorted : LongRows "region" "year" "region_count" sortedYears.rows :=
    ⟨by decide, by decide, by decide, by decide⟩
  have hcontiguous : Contiguous (sortedYears.rows.filterMap (·.label? "region")) := by
    intro a b h
    have hlabels : [a, b, a] = ["East", "East", "West"] := h.eq_of_length rfl
    simp only [List.cons.injEq] at hlabels
    exact absurd (hlabels.1.symm.trans hlabels.2.2.1) (by decide)
  have hkind : ChartKind.bar.supportsSubGroup := rfl
  have hgroup : yearBars.groupBy = some "region" := rfl
  have hsub : yearBars.effectiveSubGroup = some "year" := rfl
  have hkey : yearBars.valueKey = some "region_count" := rfl
  have hwide : ∀ r, (byRegion r).rows = widen "region" "year" "region_count" r.rows := fun _ => rfl
  constructor
  · obtain ⟨m, other, hm, hother, hsame⟩ :=
      (ofResponse_widen hkind hgroup hsub hkey hmixed (hwide mixedYears)).1 (List.cons_ne_nil _ _)
    refine ⟨hmixed, m, other, hm, hother, hsame, ?_, ?_⟩
    · cases hm
      rfl
    · cases hother
      rfl
  · exact ⟨hsorted,
      (ofResponse_widen hkind hgroup hsub hkey hsorted (hwide sortedYears)).2 hcontiguous⟩

end RenderModel

end Chartboard
