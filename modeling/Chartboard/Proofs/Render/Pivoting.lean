import Chartboard.Proofs.Ledger.FirstKeys
import Chartboard.Proofs.Render.Drawing
import Mathlib.Data.Finset.Prod
import Mathlib.Data.Fintype.Card
import Mathlib.Data.List.Pairwise

/-!
# Points of a grid

Rows of bars, lines or areas are points of a grid: every point has a category, a series and a value.
Categories and series stand in the order in which they first come, and what the grid holds for them
is what was written last. There is one place for every category and every series, so the grid shows
every point at a place of its own exactly if no two points have the same category and the same
series.
-/

namespace Chartboard

/-- A point of a grid. -/
structure Point where
  /-- The label of the category. -/
  category : String
  /-- The name of the series. -/
  series : String
  /-- The value; none for a gap. -/
  value : Option Float

/-- The row of a grid that has one point. -/
def Point.gridRow (p : Point) : String × List (String × Option Float) :=
  (p.category, [(p.series, p.value)])

/-- Two points belong to the same place. -/
def Point.Meets (p q : Point) : Prop :=
  p.category = q.category ∧ p.series = q.series

/-! ## What a grid holds -/

namespace Pivot

/-- What the grid holds for a category and a series, if anything was written there. -/
def get? (p : Pivot) (category series : String) : Option (Option Float) :=
  (p.series.get? series).bind fun values => values.get? category

/-- The points of some rows, from the first to the last. -/
def pointsOf (rows : List (String × List (String × Option Float))) : List Point :=
  rows.flatMap fun row => row.2.map fun cell => ⟨row.1, cell.1, cell.2⟩

/-- A grid of points. -/
def ofPoints (points : List Point) : Pivot :=
  ofRows (points.map Point.gridRow)

/-- Writing a value changes what the grid holds at its own place only. -/
theorem get?_set (p : Pivot) (category series c s : String) (value : Option Float) :
    (p.set category series value).get? c s =
      if c = category ∧ s = series then some value else p.get? c s := by
  rw [get?, set, Ledger.get?_insert]
  by_cases hs : s = series
  · rw [if_pos hs, Option.bind_some, Ledger.get?_insert, hs]
    by_cases hc : c = category
    · rw [if_pos hc, if_pos ⟨hc, rfl⟩]
    · rw [if_neg hc, if_neg fun h => hc h.1, get?]
      cases p.series.get? series with
      | none => rfl
      | some values => rfl
  · rw [if_neg hs, if_neg fun h => hs h.2]
    rfl

/-- Writes the value of a point into the series. -/
def write (series : Ledger String (Ledger String (Option Float))) (q : Point) :
    Ledger String (Ledger String (Option Float)) :=
  series.insert q.series (((series.get? q.series).getD ∅).insert q.category q.value)

/-- The series are written point by point, whatever the rows are. -/
theorem series_ofRows (rows : List (String × List (String × Option Float))) :
    (ofRows rows).series = (pointsOf rows).foldl write ∅ := by
  have hcells : ∀ (cells : List (String × Option Float)) (category : String) (p : Pivot),
      (cells.foldl (fun p cell => p.set category cell.1 cell.2) p).series =
        (cells.map fun cell => (⟨category, cell.1, cell.2⟩ : Point)).foldl write p.series := by
    intro cells category
    induction cells with
    | nil => exact fun p => rfl
    | cons cell rest ih => exact fun p => ih (p.set category cell.1 cell.2)
  induction rows using List.reverseRecOn with
  | nil => rfl
  | append_singleton rows row ih =>
    rw [ofRows, List.foldl_append, pointsOf, List.flatMap_append, List.foldl_append,
      List.flatMap_singleton]
    rw [ofRows, pointsOf] at ih
    rw [← ih]
    exact hcells row.2 row.1 _

/-- The categories are those of the rows. -/
theorem categories_ofRows (rows : List (String × List (String × Option Float))) :
    (ofRows rows).categories = Ledger.ofList (rows.map fun row => (row.1, ())) := by
  have hcells : ∀ (cells : List (String × Option Float)) (category : String) (p : Pivot),
      (cells.foldl (fun p cell => p.set category cell.1 cell.2) p).categories = p.categories := by
    intro cells category
    induction cells with
    | nil => exact fun p => rfl
    | cons cell rest ih => exact fun p => ih (p.set category cell.1 cell.2)
  induction rows using List.reverseRecOn with
  | nil => rfl
  | append_singleton rows row ih =>
    rw [ofRows, List.foldl_append, List.map_append, Ledger.ofList_append, ← ih]
    exact hcells row.2 row.1 _

/-- The categories stand in the order in which the rows first have them. -/
theorem keys_categories_ofRows (rows : List (String × List (String × Option Float))) :
    (ofRows rows).categories.keys = (rows.map Prod.fst).eraseDups := by
  rw [categories_ofRows, Ledger.keys_ofList, List.map_map]
  rfl

/-- The series stand in the order in which the points first have them. -/
theorem keys_series_ofRows (rows : List (String × List (String × Option Float))) :
    (ofRows rows).series.keys = ((pointsOf rows).map (·.series)).eraseDups := by
  rw [series_ofRows]
  exact Ledger.keys_foldl (fun _ _ => ⟨_, rfl⟩) (pointsOf rows)

/-- The grid holds what was written last. -/
theorem get?_ofRows (rows : List (String × List (String × Option Float)))
    (category series : String) :
    (ofRows rows).get? category series =
      ((pointsOf rows).reverse.find? fun q => q.category = category ∧ q.series = series).map
        (·.value) := by
  rw [get?, series_ofRows]
  induction pointsOf rows using List.reverseRecOn with
  | nil => rfl
  | append_singleton points q ih =>
    have hset := get?_set ⟨∅, points.foldl write ∅⟩ q.category q.series category series q.value
    rw [List.foldl_append, List.reverse_append, List.reverse_singleton, List.singleton_append,
      List.find?_cons]
    refine hset.trans ?_
    by_cases h : q.category = category ∧ q.series = series
    · rw [if_pos ⟨h.1.symm, h.2.symm⟩, decide_eq_true h]
      rfl
    · rw [if_neg fun h' => h ⟨h'.1.symm, h'.2.symm⟩, decide_eq_false h]
      exact ih

/-- Among the points of a row, the one of a category and a series is its cell, if the row is of that
category. -/
theorem find?_cells (category c series : String) (cells : List (String × Option Float)) :
    ((cells.map fun cell => (⟨category, cell.1, cell.2⟩ : Point)).find? fun q =>
        q.category = c ∧ q.series = series).map (·.value) =
      if category = c then cells.lookup series else none := by
  induction cells with
  | nil => simp
  | cons cell rest ih =>
    rw [List.map_cons, List.find?_cons, List.lookup_cons]
    by_cases hc : category = c
    · by_cases hs : cell.1 = series
      · simp [hc, hs]
      · simp only [hc, hs, if_true, and_false, decide_false, beq_eq_false_iff_ne.2 (Ne.symm hs)]
        rw [if_pos hc] at ih
        rwa [hc] at ih
    · simp only [hc, false_and, decide_false, if_false]
      rwa [if_neg hc] at ih

/-- What the grid holds is what the last row that has the category and the series gives. -/
theorem get?_ofRows_last (rows : List (String × List (String × Option Float)))
    (category series : String) :
    (ofRows rows).get? category series =
      rows.reverse.findSome? fun row =>
        if row.1 = category then row.2.reverse.lookup series else none := by
  rw [get?_ofRows, pointsOf, List.reverse_flatMap, List.find?_flatMap, List.map_findSome?]
  refine congrArg (rows.reverse.findSome? ·) (funext fun row => ?_)
  rw [Function.comp_apply, Function.comp_apply, ← List.map_reverse]
  exact find?_cells row.1 category series row.2.reverse

/-- The rows of single points give those points. -/
theorem pointsOf_gridRows (points : List Point) : pointsOf (points.map Point.gridRow) = points := by
  rw [pointsOf, List.flatMap_map]
  exact List.flatMap_singleton' points

/-- A grid of points holds the value of the last point at each place. -/
theorem get?_ofPoints (points : List Point) (category series : String) :
    (ofPoints points).get? category series =
      (points.reverse.find? fun q => q.category = category ∧ q.series = series).map (·.value) := by
  rw [ofPoints, get?_ofRows, pointsOf_gridRows]

/-- What a grid holds depends on its points alone. -/
theorem get?_pointsOf (rows : List (String × List (String × Option Float)))
    (category series : String) :
    (ofPoints (pointsOf rows)).get? category series = (ofRows rows).get? category series := by
  rw [get?_ofPoints, get?_ofRows]

/-- The categories of a grid are those of its points. -/
theorem mem_categories_ofPoints {points : List Point} {category : String} :
    category ∈ (ofPoints points).categories.keys ↔ ∃ p ∈ points, p.category = category := by
  rw [ofPoints, keys_categories_ofRows, List.mem_eraseDups, List.map_map, List.mem_map]
  exact Iff.rfl

/-- The series of a grid are those of its points. -/
theorem mem_series_ofPoints {points : List Point} {series : String} :
    series ∈ (ofPoints points).series.keys ↔ ∃ p ∈ points, p.series = series := by
  rw [ofPoints, keys_series_ofRows, pointsOf_gridRows, List.mem_eraseDups, List.mem_map]

/-- The series of a grid in closed form: what the grid holds for every category under the key of the
series, and a gap where it holds nothing. -/
theorem toSeries_eq (p : Pivot) :
    p.toSeries = p.series.keys.zipIdx.map fun (key, index) =>
      { key
        values := p.categories.keys.map fun category => (p.get? category key).join
        color := Rgb.ofIndex index } := by
  have hkeys : p.series.keys.zipIdx = p.series.entries.zipIdx.map (Prod.map Prod.fst id) :=
    List.zipIdx_map
  rw [toSeries, hkeys, List.map_map]
  refine List.map_congr_left fun entry hentry => ?_
  obtain ⟨⟨key, values⟩, index⟩ := entry
  have hvalues : p.series.get? key = some values :=
    Ledger.get?_eq_some_iff.2 (List.fst_mem_of_mem_zipIdx hentry)
  have haligned : p.aligned values =
      p.categories.keys.map fun category => (p.get? category key).join := by
    refine List.map_congr_left fun category _ => ?_
    rw [get?, hvalues, Option.bind_some]
  simp only [Function.comp_apply, Prod.map, id, haligned]

end Pivot

/-! ## What a model shows -/

namespace CategoricalModel

/-- What the model has at a place, given by the numbers of the category and the series: nothing
where there is no such place, and a value or a gap where there is one. -/
def at? (m : CategoricalModel) (i j : Nat) : Option (Option Float) :=
  (m.series[j]?).bind fun series => series.values[i]?

/-- The model shows a point at a place: the category, the series and the value are those of the
point. -/
structure ShowsAt (m : CategoricalModel) (i j : Nat) (p : Point) : Prop where
  /-- The category is that of the point. -/
  category : m.categories[i]? = some p.category
  /-- The series is that of the point. -/
  series : (m.series[j]?).map (·.key) = some p.series
  /-- The value is that of the point. -/
  value : m.at? i j = some p.value

/-- The model shows every one of some points at a place of its own, and there are gaps at all other
places. -/
def ShowsEach (m : CategoricalModel) (points : List Point) : Prop :=
  ∃ place : Fin points.length → Nat × Nat,
    (∀ n, m.ShowsAt (place n).1 (place n).2 points[n]) ∧ Function.Injective place ∧
    ∀ i j x, m.at? i j = some (some x) → ∃ n, place n = (i, j)

/-- A model has as many places as it shows points at places of their own. -/
theorem ShowsEach.length_le {m : CategoricalModel} {points : List Point} (h : m.ShowsEach points) :
    points.length ≤ m.categories.length * m.series.length := by
  obtain ⟨place, hshows, hdistinct, -⟩ := h
  have hplaces : ∀ n ∈ Finset.univ,
      place n ∈ Finset.range m.categories.length ×ˢ Finset.range m.series.length := by
    intro n _
    obtain ⟨hcategory, -⟩ := List.getElem?_eq_some_iff.1 (hshows n).category
    obtain ⟨series, hseries, -⟩ := Option.map_eq_some_iff.1 (hshows n).series
    obtain ⟨hindex, -⟩ := List.getElem?_eq_some_iff.1 hseries
    exact Finset.mk_mem_product (Finset.mem_range.2 hcategory) (Finset.mem_range.2 hindex)
  have hcard := Finset.card_le_card_of_injOn place hplaces hdistinct.injOn
  rwa [Finset.card_fin, Finset.card_product, Finset.card_range, Finset.card_range] at hcard

end CategoricalModel

namespace RenderModel

variable (kind : ChartKind) (s : Spec) {grid : List (String × List (String × Option Float))}
  {points : List Point}

/-! ## Places of a model -/

/-- The series of a model have a value or a gap for each category of the grid. -/
theorem getElem?_series (grid : List (String × List (String × Option Float))) (j : Nat) :
    (gridModel kind s grid).series[j]? =
      ((Pivot.ofRows grid).series.keys[j]?).map fun key =>
        { key
          values := (Pivot.ofRows grid).categories.keys.map fun category =>
            ((Pivot.ofRows grid).get? category key).join
          color := Rgb.ofIndex j } := by
  show ((Pivot.ofRows grid).toSeries)[j]? = _
  rw [Pivot.toSeries_eq, List.getElem?_map, List.getElem?_zipIdx, Option.map_map, Nat.zero_add]
  rfl

/-- The series of the model are those of the grid. -/
theorem key_getElem?_series (grid : List (String × List (String × Option Float))) (j : Nat) :
    ((gridModel kind s grid).series[j]?).map (·.key) = (Pivot.ofRows grid).series.keys[j]? := by
  rw [getElem?_series, Option.map_map]
  exact Option.map_id'

/-- The model has at the place of a category and a series what the grid holds for them. -/
theorem at?_gridModel {i j : Nat} {category series : String}
    (hcategory : (Pivot.ofRows grid).categories.keys[i]? = some category)
    (hseries : (Pivot.ofRows grid).series.keys[j]? = some series) :
    (gridModel kind s grid).at? i j = some ((Pivot.ofRows grid).get? category series).join := by
  rw [CategoricalModel.at?, getElem?_series, hseries, Option.map_some, Option.bind_some,
    List.getElem?_map, hcategory, Option.map_some]

/-- There is a place only for a category and a series. -/
theorem at?_eq_some {i j : Nat} {value : Option Float}
    (h : (gridModel kind s grid).at? i j = some value) :
    ∃ category series, (Pivot.ofRows grid).categories.keys[i]? = some category ∧
      (Pivot.ofRows grid).series.keys[j]? = some series ∧
      value = ((Pivot.ofRows grid).get? category series).join := by
  have hplace := h
  rw [CategoricalModel.at?, getElem?_series] at hplace
  obtain ⟨entry, hentry, hvalue⟩ := Option.bind_eq_some_iff.1 hplace
  obtain ⟨series, hseries, rfl⟩ := Option.map_eq_some_iff.1 hentry
  rw [List.getElem?_map] at hvalue
  obtain ⟨category, hcategory, -⟩ := Option.map_eq_some_iff.1 hvalue
  refine ⟨category, series, hcategory, hseries, ?_⟩
  rw [at?_gridModel kind s hcategory hseries] at h
  exact (Option.some.inj h).symm

/-! ## Points of a model -/

/-- The model of some points. -/
def pointModel (points : List Point) : CategoricalModel :=
  gridModel kind s (points.map Point.gridRow)

/-- The series of the model of some points stand in the order of their grid. -/
theorem key_getElem?_pointModel (points : List Point) (j : Nat) :
    ((pointModel kind s points).series[j]?).map (·.key) =
      (Pivot.ofPoints points).series.keys[j]? :=
  key_getElem?_series kind s _ j

/-- The model of some points has at each place what their grid holds there, and a gap where nothing
was written. -/
theorem at?_pointModel {i j : Nat} {category series : String}
    (hcategory : (Pivot.ofPoints points).categories.keys[i]? = some category)
    (hseries : (Pivot.ofPoints points).series.keys[j]? = some series) :
    (pointModel kind s points).at? i j =
      some ((Pivot.ofPoints points).get? category series).join :=
  at?_gridModel kind s hcategory hseries

/-- Of points that do not meet, two that do are one. -/
theorem eq_of_meets (h : points.Pairwise fun p q => ¬p.Meets q) {p q : Point} (hp : p ∈ points)
    (hq : q ∈ points) (hmeets : p.Meets q) : p = q := by
  have hsymm : Std.Symm fun p q : Point => ¬p.Meets q :=
    ⟨fun _ _ hnot h => hnot ⟨h.1.symm, h.2.symm⟩⟩
  by_contra hne
  exact h.forall hp hq hne hmeets

/-- What a grid holds for a category and a series is the value of a point. -/
theorem exists_of_get? {category series : String} {value : Option Float}
    (h : (Pivot.ofPoints points).get? category series = some value) :
    ∃ p ∈ points, p.category = category ∧ p.series = series ∧ p.value = value := by
  rw [Pivot.get?_ofPoints] at h
  obtain ⟨p, hfound, hvalue⟩ := Option.map_eq_some_iff.1 h
  have hplace : p.category = category ∧ p.series = series := by
    simpa only [decide_eq_true_eq] using List.find?_some hfound
  exact ⟨p, List.mem_reverse.1 (List.mem_of_find?_eq_some hfound), hplace.1, hplace.2, hvalue⟩

/-- A grid of points that do not meet holds the value of each. -/
theorem get?_of_mem (h : points.Pairwise fun p q => ¬p.Meets q) {p : Point} (hp : p ∈ points) :
    (Pivot.ofPoints points).get? p.category p.series = some p.value := by
  cases hget : (Pivot.ofPoints points).get? p.category p.series with
  | none =>
    rw [Pivot.get?_ofPoints, Option.map_eq_none_iff, List.find?_eq_none] at hget
    exact absurd (decide_eq_true ⟨rfl, rfl⟩) (hget p (List.mem_reverse.2 hp))
  | some value =>
    obtain ⟨q, hq, hcategory, hseries, rfl⟩ := exists_of_get? hget
    rw [eq_of_meets h hp hq ⟨hcategory.symm, hseries.symm⟩]

/-- A grid of points that do not meet holds the values of its points and nothing else. -/
theorem get?_eq_some_iff_mem (h : points.Pairwise fun p q => ¬p.Meets q) {category series : String}
    {value : Option Float} :
    (Pivot.ofPoints points).get? category series = some value ↔
      (⟨category, series, value⟩ : Point) ∈ points := by
  constructor
  · intro hget
    obtain ⟨p, hp, rfl, rfl, rfl⟩ := exists_of_get? hget
    exact hp
  · exact get?_of_mem h

/-- The place of a point: the numbers of its category and of its series. -/
def placeOf (points : List Point) (p : Point) : Nat × Nat :=
  ((Pivot.ofPoints points).categories.keys.idxOf p.category,
    (Pivot.ofPoints points).series.keys.idxOf p.series)

/-- The category of a point stands at its place. -/
theorem category_placeOf {p : Point} (hp : p ∈ points) :
    (Pivot.ofPoints points).categories.keys[(placeOf points p).1]? = some p.category :=
  List.getElem?_idxOf (Pivot.mem_categories_ofPoints.2 ⟨p, hp, rfl⟩)

/-- The series of a point stands at its place. -/
theorem series_placeOf {p : Point} (hp : p ∈ points) :
    (Pivot.ofPoints points).series.keys[(placeOf points p).2]? = some p.series :=
  List.getElem?_idxOf (Pivot.mem_series_ofPoints.2 ⟨p, hp, rfl⟩)

/-- No name stands at two places of a list of names. -/
theorem index_unique {names : List String} (h : names.Nodup) {i j : Nat} {name : String}
    (hi : names[i]? = some name) (hj : names[j]? = some name) : i = j := by
  obtain ⟨hi', hi⟩ := List.getElem?_eq_some_iff.1 hi
  obtain ⟨hj', hj⟩ := List.getElem?_eq_some_iff.1 hj
  exact h.getElem_inj_iff.1 (hi.trans hj.symm)

/-- A point is shown at no place but its own. -/
theorem place_unique {i j : Nat} {p q : Point} (hp : (pointModel kind s points).ShowsAt i j p)
    (hmeets : p.Meets q) (hq : q ∈ points) : (i, j) = placeOf points q := by
  have hcategory := hp.category
  have hseries := hp.series
  rw [hmeets.1] at hcategory
  rw [key_getElem?_pointModel, hmeets.2] at hseries
  rw [index_unique (Pivot.ofPoints points).categories.nodup_keys hcategory (category_placeOf hq),
    index_unique (Pivot.ofPoints points).series.nodup_keys hseries (series_placeOf hq)]

/-- Points are shown at places of their own exactly if no two of them have one category and one
series. -/
theorem showsEach_iff :
    (pointModel kind s points).ShowsEach points ↔ points.Pairwise fun p q => ¬p.Meets q := by
  constructor
  · rintro ⟨place, hshows, hdistinct, -⟩
    rw [List.pairwise_iff_getElem]
    intro n k hn hk hlt hmeets
    have hfirst := place_unique kind s (hshows ⟨n, hn⟩) hmeets (List.getElem_mem hk)
    have hsecond := place_unique kind s (hshows ⟨k, hk⟩) ⟨rfl, rfl⟩ (List.getElem_mem hk)
    have hsame : (⟨n, hn⟩ : Fin points.length) = ⟨k, hk⟩ := hdistinct (hfirst.trans hsecond.symm)
    exact absurd (Fin.mk.inj hsame) (Nat.ne_of_lt hlt)
  · intro h
    refine ⟨fun n => placeOf points points[n], fun n => ?_, fun n k hsame => ?_, fun i j x hx => ?_⟩
    · have hmem : points[n] ∈ points := List.getElem_mem n.isLt
      refine ⟨category_placeOf hmem, ?_, ?_⟩
      · rw [key_getElem?_pointModel]
        exact series_placeOf hmem
      · rw [at?_pointModel kind s (category_placeOf hmem) (series_placeOf hmem),
          get?_of_mem h hmem, Option.join_some]
    · obtain ⟨hcategory, hseries⟩ := Prod.mk.inj hsame
      have hmem : points[n] ∈ points := List.getElem_mem n.isLt
      have hmeets : points[n].Meets points[k] :=
        ⟨(List.idxOf_inj (Pivot.mem_categories_ofPoints.2 ⟨points[n], hmem, rfl⟩)).1 hcategory,
          (List.idxOf_inj (Pivot.mem_series_ofPoints.2 ⟨points[n], hmem, rfl⟩)).1 hseries⟩
      have hapart := List.pairwise_iff_getElem.1 h
      rcases Nat.lt_trichotomy n k with hlt | heq | hgt
      · exact absurd hmeets (hapart n k n.isLt k.isLt hlt)
      · exact Fin.ext heq
      · exact absurd ⟨hmeets.1.symm, hmeets.2.symm⟩ (hapart k n k.isLt n.isLt hgt)
    · obtain ⟨category, series, hcategory, hseries, hvalue⟩ := at?_eq_some kind s hx
      obtain ⟨p, hp, rfl, rfl, -⟩ := exists_of_get? (Option.join_eq_some_iff.1 hvalue.symm)
      obtain ⟨n, hn, rfl⟩ := List.getElem_of_mem hp
      refine ⟨⟨n, hn⟩, Prod.ext ?_ ?_⟩
      · exact index_unique (Pivot.ofPoints points).categories.nodup_keys (category_placeOf hp)
          hcategory
      · exact index_unique (Pivot.ofPoints points).series.nodup_keys (series_placeOf hp) hseries

end RenderModel

end Chartboard
