import Chartboard.Proofs.Render.RowMarks

/-!
# Rows that can be drawn

A chart other than a histogram is drawn from any rows, at least one, that have the cells under the
keys of its specification; what the cells hold does not matter.
-/

namespace Chartboard

open Outcome

namespace RenderModel

/-- The rows have the cells that a specification reads. -/
structure Readable (s : Spec) (rows : List Row) : Prop where
  /-- The value is there. -/
  value : ∃ key, s.valueKey = some key ∧ ∀ row ∈ rows, key ∈ row.keys
  /-- The group is there, if the kind of chart has an axis of groups. -/
  groupBy : s.kind.requiresGroupBy → ∃ name, s.groupBy = some name ∧ ∀ row ∈ rows, name ∈ row.keys
  /-- The second value is there, if the chart has two axes. -/
  secondary : s.kind = .dualAxis →
    ∃ key, s.secondaryKey = some key ∧ ∀ row ∈ rows, key ∈ row.keys

variable {s : Spec} {rows : List Row} (kind : ChartKind) {groupBy key : String}

/-- A figure is drawn where all rows have the value and there is one. -/
theorem kpiOf_total (hkey : s.valueKey = some key) (hvalue : ∀ row ∈ rows, key ∈ row.keys)
    (hne : rows ≠ []) : ∃ m, kpiOf s rows = .ok (.kpi m) := by
  cases rows with
  | nil => exact absurd rfl hne
  | cons row rest =>
    obtain ⟨x, hx⟩ := Row.numberAt_total .kpi (hvalue row List.mem_cons_self)
    refine ⟨⟨key, x⟩, bind_eq_ok.2 ⟨key, Spec.needed_eq_ok.2 hkey, ?_⟩⟩
    exact bind_eq_ok.2 ⟨x, hx, rfl⟩

/-! ## Grids of readable rows -/

/-- A row with its label and its value is read. -/
theorem plainRow_total {row : Row} (hvalue : key ∈ row.keys) (hlabel : groupBy ∈ row.keys) :
    ∃ cells, plainRow kind groupBy key row = .ok cells := by
  obtain ⟨label, hl⟩ := Row.labelAt_total kind hlabel
  obtain ⟨value, hv⟩ := Row.numberAt_total kind hvalue
  exact ⟨_, bind_eq_ok.2 ⟨label, hl, bind_eq_ok.2 ⟨value, hv, rfl⟩⟩⟩

/-- A long row with its label, its series and its value is read. -/
theorem longRow_total {row : Row} {subGroup : String} (hvalue : key ∈ row.keys)
    (hlabel : groupBy ∈ row.keys) (hseries : subGroup ∈ row.keys) :
    ∃ cells, longRow kind groupBy subGroup key row = .ok cells := by
  obtain ⟨label, hl⟩ := Row.labelAt_total kind hlabel
  obtain ⟨series, hs⟩ := Row.labelAt_total kind hseries
  obtain ⟨value, hv⟩ := Row.numberAt_total kind hvalue
  exact ⟨_, bind_eq_ok.2 ⟨label, hl, bind_eq_ok.2 ⟨series, hs, bind_eq_ok.2 ⟨value, hv, rfl⟩⟩⟩⟩

/-- A wide row with its label is read. -/
theorem wideRow_total {row : Row} (hlabel : groupBy ∈ row.keys) :
    ∃ cells, wideRow kind groupBy row = .ok cells := by
  obtain ⟨label, hl⟩ := Row.labelAt_total kind hlabel
  exact ⟨_, bind_eq_ok.2 ⟨label, hl, rfl⟩⟩

/-- Rows with labels and values are all read, long ones and wide ones. -/
theorem gridRows_total (s : Spec) (hvalue : ∀ row ∈ rows, key ∈ row.keys)
    (hlabel : ∀ row ∈ rows, groupBy ∈ row.keys) :
    ∃ grid, gridRows kind s groupBy key rows = .ok grid := by
  unfold gridRows
  cases s.effectiveSubGroup with
  | none => exact mapM_total fun row hrow => plainRow_total kind (hvalue row hrow) (hlabel row hrow)
  | some subGroup =>
    simp only
    split
    · rename_i hlong
      rw [List.all_eq_true] at hlong
      exact mapM_total fun row hrow => longRow_total kind (hvalue row hrow) (hlabel row hrow)
        (Ledger.contains_iff.1 (hlong row hrow))
    · exact mapM_total fun row hrow => wideRow_total kind (hlabel row hrow)

/-- Bars, lines and areas are drawn from readable rows. -/
theorem grid_total (displayCap : Nat) {r : Response} (hgrid : s.kind.supportsSubGroup)
    (hne : r.rows ≠ []) (h : Readable s r.rows) :
    ∃ m, ofResponse displayCap s.kind s r = .ok m ∧ m.kind = s.kind := by
  have hrequires : s.kind.requiresGroupBy := by
    revert hgrid
    cases s.kind <;> decide
  obtain ⟨key, hkey, hvalue⟩ := h.value
  obtain ⟨name, hname, hlabel⟩ := h.groupBy hrequires
  obtain ⟨grid, hrows⟩ := gridRows_total s.kind s hvalue hlabel
  exact ⟨_, (ofResponse_categorical hgrid).2 ⟨hne, key, name, grid, hkey, hname, hrows, rfl⟩, rfl⟩

/-! ## Marks of readable rows -/

/-- What is read of readable rows is there. -/
theorem omissions_of_readable (hmarks : s.kind ∈ [ChartKind.pie, .funnel, .dualAxis])
    (h : Readable s rows) : omissions s rows = [] := by
  obtain ⟨key, hkey, hvalue⟩ := h.value
  obtain ⟨name, hname, hlabel⟩ := h.groupBy (by revert hmarks; cases s.kind <;> decide)
  have hcolumn : s.valueColumn.isNone = false := by
    rw [← Spec.isNone_valueKey, hkey]
    rfl
  rw [omissions, List.append_eq_nil_iff, List.flatMap_eq_nil_iff]
  simp only [List.mem_cons, List.not_mem_nil, or_false, ← or_assoc] at hmarks
  rcases hmarks with hmarks | hdual
  · rw [omissions_labelled hmarks]
    refine ⟨by simp [hcolumn, hname], fun row hrow => ?_⟩
    rw [row_omissions_labelled hmarks hname hkey]
    simp [hlabel row hrow, hvalue row hrow]
  · obtain ⟨second, hsecond, hother⟩ := h.secondary hdual
    have hcolumn' : s.secondaryValueColumn.isNone = false := by
      rw [← Spec.isNone_secondaryKey hdual, hsecond]
      rfl
    rw [omissions_dualAxis hdual]
    refine ⟨by simp [hcolumn, hcolumn', hname], fun row hrow => ?_⟩
    rw [row_omissions_dualAxis hdual hname hkey hsecond]
    simp [hlabel row hrow, hvalue row hrow, hother row hrow]

/-- Pies, funnels and charts with two axes are drawn from readable rows. -/
theorem marks_total (displayCap : Nat) {r : Response}
    (hmarks : s.kind ∈ [ChartKind.pie, .funnel, .dualAxis]) (hne : r.rows ≠ [])
    (h : Readable s r.rows) :
    ∃ m, ofResponse displayCap s.kind s r = .ok m ∧ m.kind = s.kind := by
  have hkind : s.kind ∈ [ChartKind.pie, .funnel, .dualAxis, .histogram] := by
    revert hmarks
    cases s.kind <;> decide
  have hread := refusesFirst_ofResponse displayCap hkind hne
  rw [omissions_of_readable hmarks h] at hread
  obtain ⟨m, hm, hmade⟩ := exists_ok_of_refusesFirst hread
  exact ⟨m, hm, kind_of_marksEach hmade⟩

/-! ## All kinds -/

/-- Readable rows are drawn by the kind of chart that the specification says. -/
theorem ofResponse_total (displayCap : Nat) {s : Spec} {r : Response}
    (hkind : s.kind ≠ .histogram) (hne : r.rows ≠ []) (h : Readable s r.rows) :
    ∃ m, ofResponse displayCap s.kind s r = .ok m ∧ m.kind = s.kind := by
  by_cases hgrid : s.kind.supportsSubGroup
  · exact grid_total displayCap hgrid hne h
  by_cases hmarks : s.kind ∈ [ChartKind.pie, .funnel, .dualAxis]
  · exact marks_total displayCap hmarks hne h
  obtain ⟨key, hkey, hvalue⟩ := h.value
  unfold ofResponse
  rw [Response.isEmpty_eq_false hne, if_neg Bool.false_ne_true]
  cases hk : s.kind with
  | table => exact ⟨_, rfl, rfl⟩
  | kpi =>
    obtain ⟨m, hm⟩ := kpiOf_total hkey hvalue hne
    exact ⟨_, hm, rfl⟩
  | histogram => exact absurd hk hkind
  | pie | funnel | dualAxis =>
    rw [hk] at hmarks
    exact absurd (by decide) hmarks
  | bar | line | area =>
    rw [hk] at hgrid
    exact absurd rfl hgrid

end RenderModel

end Chartboard
