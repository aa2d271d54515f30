import Chartboard.Proofs.Ledger.Lookup
import Chartboard.Proofs.Outcome
import Chartboard.Render.Adapt
import Mathlib.Tactic.ByContra

/-!
# Drawing from rows

What is read from rows and from specifications, and the grid that bars, lines and areas are drawn
from. As soon as there are rows, drawing is refused only for something that is lacking.
-/

namespace Chartboard

open Json (Value)
open Outcome

/-- The label of the cell under a name, if there is one. -/
def Row.label? (row : Row) (name : String) : Option String :=
  (row.get? name).map Value.label

/-- What is drawn for the cell under a key, if there is one: its number, or a gap. -/
def Row.value? (row : Row) (key : String) : Option (Option Float) :=
  (row.get? key).map Value.asNumber?

namespace Row

variable (kind : ChartKind) {row : Row} {key : String}

/-- The label of a cell that is there is read. -/
theorem labelAt_of_get? {v : Value} (h : row.get? key = some v) :
    labelAt kind row key = .ok v.label := by
  rw [labelAt, cell, h]
  rfl

/-- The number of a cell that is there is read, if the cell has one. -/
theorem numberAt_of_get? {v : Value} (h : row.get? key = some v) :
    numberAt kind row key = .ok v.asNumber? := by
  rw [numberAt, cell, h]
  rfl

/-- A number or a gap is read under every key of a row. -/
theorem numberAt_total (h : key ∈ row.keys) : ∃ x, numberAt kind row key = .ok x := by
  obtain ⟨v, hv⟩ := Ledger.mem_keys_iff.1 h
  exact ⟨v.asNumber?, numberAt_of_get? kind hv⟩

/-- A label is read under every key of a row. -/
theorem labelAt_total (h : key ∈ row.keys) : ∃ label, labelAt kind row key = .ok label := by
  obtain ⟨v, hv⟩ := Ledger.mem_keys_iff.1 h
  exact ⟨v.label, labelAt_of_get? kind hv⟩

variable {kind}

/-- A label is read exactly where the row has one. -/
theorem labelAt_eq_ok {label : String} :
    labelAt kind row key = .ok label ↔ row.label? key = some label := by
  rw [labelAt, cell, label?]
  cases row.get? key <;> simp [Functor.map, Except.map]

/-- A number or a gap is read exactly where the row has a cell. -/
theorem numberAt_eq_ok {x : Option Float} :
    numberAt kind row key = .ok x ↔ row.value? key = some x := by
  rw [numberAt, cell, value?]
  cases row.get? key <;> simp [Functor.map, Except.map]

end Row

/-- A response with rows is not empty. -/
theorem Response.isEmpty_eq_false {r : Response} (h : r.rows ≠ []) : r.isEmpty = false := by
  rw [isEmpty, List.isEmpty_eq_false_iff]
  exact h

/-- A field that is needed is read exactly if it is set. -/
theorem Spec.needed_eq_ok {kind : ChartKind} {field : SpecField} {value : Option String}
    {name : String} : Spec.needed kind field value = .ok name ↔ value = some name := by
  unfold needed
  cases value with
  | none => simp
  | some v => simp

/-- The values are looked for under the key of the aggregate of the value column. -/
theorem Spec.valueKey_of_valueColumn {s : Spec} {value : String}
    (h : s.valueColumn = some value) :
    s.valueKey = some (Aggregate.key ⟨value, s.aggregation⟩) := by
  rw [valueKey, h]
  rfl

/-- With two axes the second values are looked for under the key of the aggregate of the second
column. -/
theorem Spec.secondaryKey_of_dualAxis {s : Spec} (h : s.kind = .dualAxis) :
    s.secondaryKey = s.secondaryValueColumn.map fun c => Aggregate.key ⟨c, s.aggregation⟩ := by
  rw [secondaryKey, if_pos h]

namespace RenderModel

/-! ## Grids -/

/-- The rows of the grid; of the long shape if all rows have a series, and else of the wide one. -/
def gridRows (kind : ChartKind) (s : Spec) (groupBy key : String) (rows : List Row) :
    Except AdaptError (List (String × List (String × Option Float))) :=
  match s.effectiveSubGroup with
  | none => rows.mapM (plainRow kind groupBy key)
  | some subGroup =>
    if rows.all fun row => row.contains subGroup then
      rows.mapM (longRow kind groupBy subGroup key)
    else rows.mapM (wideRow kind groupBy)

/-- The model of a grid. -/
def gridModel (kind : ChartKind) (s : Spec)
    (grid : List (String × List (String × Option Float))) : CategoricalModel where
  kind
  categories := (Pivot.ofRows grid).categories.keys
  series := (Pivot.ofRows grid).toSeries
  stacked := s.stacked && kind.supportsStacking && s.effectiveSubGroup.isSome

/-- Bars, lines and areas are drawn from the rows of the grid alone. -/
theorem categoricalOf_eq (kind : ChartKind) (s : Spec) (rows : List Row) :
    categoricalOf kind s rows = (do
      let key ← Spec.needed kind .valueColumn s.valueKey
      let groupBy ← Spec.needed kind .groupBy s.groupBy
      let grid ← gridRows kind s groupBy key rows
      pure (.categorical (gridModel kind s grid))) := by
  unfold categoricalOf
  congr 1
  funext key
  congr 1
  funext groupBy
  unfold gridRows gridModel
  cases s.effectiveSubGroup with
  | none => rfl
  | some subGroup =>
    simp only
    split
    · rfl
    · rfl

/-! ## Refusals -/

variable (kind : ChartKind)

/-- The refusal, if it is one, is not that there are no rows. -/
def Lacking {α : Type} (x : Except AdaptError α) : Prop :=
  ∀ e, x = .error e → ∃ kind field, e = .malformedResponse kind field

section Refusals

variable {α β : Type}

/-- A chain of readings fails for something that is lacking if each of them does. -/
theorem lacking_bind {x : Except AdaptError α} {f : α → Except AdaptError β} (hx : Lacking x)
    (hf : ∀ a, Lacking (f a)) : Lacking (x >>= f) := by
  intro e h
  cases x with
  | error refusal =>
    cases h
    exact hx _ rfl
  | ok a => exact hf a e h

/-- What has a result lacks nothing. -/
theorem lacking_ok (a : α) : Lacking (.ok a) := by
  intro e h
  cases h

/-- A malformed response lacks the field that is named. -/
theorem lacking_error (kind : ChartKind) (field : String) :
    Lacking (.error (.malformedResponse kind field) : Except AdaptError α) := by
  intro e h
  cases h
  exact ⟨kind, field, rfl⟩

/-- What is made of a reading lacks nothing that the reading does not lack. -/
theorem lacking_map {x : Except AdaptError α} {f : α → β} (hx : Lacking x) :
    Lacking (f <$> x) := by
  intro e h
  cases x with
  | error refusal =>
    cases h
    exact hx _ rfl
  | ok a => cases h

/-- A reading of all elements of a list fails for something that is lacking if that of each element
does. -/
theorem lacking_mapM {f : α → Except AdaptError β} (hf : ∀ a, Lacking (f a)) (xs : List α) :
    Lacking (xs.mapM f) := by
  induction xs with
  | nil => exact lacking_ok []
  | cons x rest ih =>
    rw [List.mapM_cons]
    exact lacking_bind (hf x) fun y => lacking_bind ih fun ys => lacking_ok _

end Refusals

/-- A field that is needed and not set is lacking. -/
theorem lacking_needed (field : SpecField) (value : Option String) :
    Lacking (Spec.needed kind field value) := by
  unfold Spec.needed
  split
  · exact lacking_ok _
  · exact lacking_error _ _

/-- A cell that is not in the row is lacking. -/
theorem lacking_cell (row : Row) (key : String) : Lacking (Row.cell kind row key) := by
  unfold Row.cell
  split
  · exact lacking_ok _
  · exact lacking_error _ _

/-- A label fails to be read only if its cell is lacking. -/
theorem lacking_labelAt (row : Row) (key : String) : Lacking (Row.labelAt kind row key) :=
  lacking_map (lacking_cell kind row key)

/-- A number fails to be read only if its cell is lacking. -/
theorem lacking_numberAt (row : Row) (key : String) : Lacking (Row.numberAt kind row key) :=
  lacking_map (lacking_cell kind row key)

/-- A single value fails to be drawn only for something that is lacking. -/
theorem lacking_kpiOf (s : Spec) (rows : List Row) : Lacking (kpiOf s rows) := by
  refine lacking_bind (lacking_needed _ _ _) fun key => ?_
  cases rows with
  | nil => exact lacking_error _ _
  | cons row rest => exact lacking_bind (lacking_numberAt _ row key) fun _ => lacking_ok _

/-- A bin fails to be read only for something that is lacking. -/
theorem lacking_binOf (column : String) (row : Row) : Lacking (binOf column row) := by
  unfold binOf
  simp only
  split
  · split
    · exact lacking_ok _
    · exact lacking_error _ _
  · exact lacking_error _ _

/-- A histogram fails to be drawn only for something that is lacking. -/
theorem lacking_histogramOf (s : Spec) (rows : List Row) : Lacking (histogramOf s rows) := by
  refine lacking_bind (lacking_needed _ _ _) fun column => ?_
  exact lacking_bind (lacking_mapM (lacking_binOf column) rows) fun _ => lacking_ok _

/-- A pie fails to be drawn only for something that is lacking. -/
theorem lacking_pieOf (s : Spec) (rows : List Row) : Lacking (pieOf s rows) := by
  refine lacking_bind (lacking_needed _ _ _) fun key => ?_
  refine lacking_bind (lacking_needed _ _ _) fun groupBy => ?_
  refine lacking_bind (lacking_mapM ?_ _) fun _ => lacking_ok _
  rintro ⟨row, _⟩
  refine lacking_bind (lacking_labelAt _ row groupBy) fun _ => ?_
  exact lacking_bind (lacking_numberAt _ row key) fun _ => lacking_ok _

/-- A funnel fails to be drawn only for something that is lacking. -/
theorem lacking_funnelOf (s : Spec) (rows : List Row) : Lacking (funnelOf s rows) := by
  refine lacking_bind (lacking_needed _ _ _) fun key => ?_
  refine lacking_bind (lacking_needed _ _ _) fun groupBy => ?_
  refine lacking_bind (lacking_mapM ?_ rows) fun _ => lacking_ok _
  intro row
  refine lacking_bind (lacking_labelAt _ row groupBy) fun _ => ?_
  exact lacking_bind (lacking_numberAt _ row key) fun _ => lacking_ok _

/-- The rows of a grid fail to be read only for something that is lacking. -/
theorem lacking_gridRows (s : Spec) (groupBy key : String) (rows : List Row) :
    Lacking (gridRows kind s groupBy key rows) := by
  unfold gridRows
  split
  · refine lacking_mapM (fun row => ?_) rows
    refine lacking_bind (lacking_labelAt _ row groupBy) fun _ => ?_
    exact lacking_bind (lacking_numberAt _ row key) fun _ => lacking_ok _
  · rename_i subGroup _
    split
    · refine lacking_mapM (fun row => ?_) rows
      refine lacking_bind (lacking_labelAt _ row groupBy) fun _ => ?_
      refine lacking_bind (lacking_labelAt _ row subGroup) fun _ => ?_
      exact lacking_bind (lacking_numberAt _ row key) fun _ => lacking_ok _
    · refine lacking_mapM (fun row => ?_) rows
      exact lacking_bind (lacking_labelAt _ row groupBy) fun _ => lacking_ok _

/-- Bars, lines and areas fail to be drawn only for something that is lacking. -/
theorem lacking_categoricalOf (s : Spec) (rows : List Row) :
    Lacking (categoricalOf kind s rows) := by
  rw [categoricalOf_eq]
  refine lacking_bind (lacking_needed _ _ _) fun key => ?_
  refine lacking_bind (lacking_needed _ _ _) fun groupBy => ?_
  exact lacking_bind (lacking_gridRows _ s groupBy key rows) fun _ => lacking_ok _

/-- A chart with two axes fails to be drawn only for something that is lacking. -/
theorem lacking_dualAxisOf (s : Spec) (rows : List Row) : Lacking (dualAxisOf s rows) := by
  refine lacking_bind (lacking_needed _ _ _) fun key => ?_
  refine lacking_bind (lacking_needed _ _ _) fun second => ?_
  refine lacking_bind (lacking_needed _ _ _) fun groupBy => ?_
  refine lacking_bind (lacking_mapM ?_ rows) fun _ => lacking_ok _
  intro row
  refine lacking_bind (lacking_labelAt _ row groupBy) fun _ => ?_
  refine lacking_bind (lacking_numberAt _ row key) fun _ => ?_
  exact lacking_bind (lacking_numberAt _ row second) fun _ => lacking_ok _

/-- A response that has rows is refused only for something that is lacking. -/
theorem lacking_ofResponse (displayCap : Nat) (s : Spec) {r : Response} (h : r.rows ≠ []) :
    Lacking (ofResponse displayCap kind s r) := by
  unfold ofResponse
  rw [Response.isEmpty_eq_false h, if_neg Bool.false_ne_true]
  cases kind with
  | table => exact lacking_ok _
  | kpi => exact lacking_kpiOf s r.rows
  | histogram => exact lacking_histogramOf s r.rows
  | pie => exact lacking_pieOf s r.rows
  | funnel => exact lacking_funnelOf s r.rows
  | bar => exact lacking_categoricalOf .bar s r.rows
  | line => exact lacking_categoricalOf .line s r.rows
  | area => exact lacking_categoricalOf .area s r.rows
  | dualAxis => exact lacking_dualAxisOf s r.rows

/-- A response without rows is empty for every kind of chart. -/
theorem ofResponse_of_isEmpty (displayCap : Nat) (kind : ChartKind) (s : Spec) {r : Response}
    (h : r.rows = []) : ofResponse displayCap kind s r = .error (.emptyResult kind) := by
  unfold ofResponse Response.isEmpty
  rw [h]
  rfl

/-- An answer is taken as empty exactly if it has no rows. -/
theorem ofResponse_eq_emptyResult (displayCap : Nat) (kind : ChartKind) (s : Spec) (r : Response) :
    ofResponse displayCap kind s r = .error (.emptyResult kind) ↔ r.rows = [] := by
  constructor
  · intro h
    by_contra hne
    obtain ⟨_, _, hfield⟩ := lacking_ofResponse kind displayCap s hne _ h
    cases hfield
  · exact ofResponse_of_isEmpty displayCap kind s

/-- Bars, lines and areas are drawn from the grid of the rows, if there are any. -/
theorem ofResponse_categorical {displayCap : Nat} {kind : ChartKind} (hkind : kind.supportsSubGroup)
    {s : Spec} {r : Response} {drawn : RenderModel} :
    ofResponse displayCap kind s r = .ok drawn ↔
      r.rows ≠ [] ∧ ∃ key groupBy grid, s.valueKey = some key ∧ s.groupBy = some groupBy ∧
        gridRows kind s groupBy key r.rows = .ok grid ∧
        drawn = .categorical (gridModel kind s grid) := by
  by_cases hne : r.rows = []
  · rw [ofResponse_of_isEmpty displayCap kind s hne]
    exact ⟨nofun, fun h => absurd hne h.1⟩
  · have hdrawn : ofResponse displayCap kind s r = categoricalOf kind s r.rows := by
      unfold ofResponse
      rw [Response.isEmpty_eq_false hne, if_neg Bool.false_ne_true]
      cases kind with
      | bar => rfl
      | line => rfl
      | area => rfl
      | _ => cases hkind
    rw [hdrawn, categoricalOf_eq, and_iff_right hne]
    simp only [bind_eq_ok, Spec.needed_eq_ok, pure_eq_ok]
    constructor
    · rintro ⟨key, hkey, groupBy, hgroup, grid, hgrid, rfl⟩
      exact ⟨key, groupBy, grid, hkey, hgroup, hgrid, rfl⟩
    · rintro ⟨key, groupBy, grid, hkey, hgroup, hgrid, rfl⟩
      exact ⟨key, hkey, groupBy, hgroup, grid, hgrid, rfl⟩

end RenderModel

end Chartboard
