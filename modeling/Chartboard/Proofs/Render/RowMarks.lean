import Chartboard.Proofs.Render.Drawing

/-!
# Marks of rows

Pies, funnels, charts with two axes and histograms draw one mark for each row of an answer, in the
order of the rows. What they read is read in a fixed order: first the fields of the specification,
and then row by row what a mark is made from. If something is omitted, nothing is drawn, and what is
named is what comes first in that order.
-/

namespace Chartboard

open Outcome

/-! ## What is omitted -/

namespace Spec

/-- The column that a field of a specification names. -/
def columnOf? (s : Spec) : SpecField → Option String
  | .groupBy => s.groupBy
  | .subGroup => s.subGroup
  | .valueColumn => s.valueColumn
  | .secondaryValueColumn => s.secondaryValueColumn
  | _ => none

/-- The fields that a chart with a mark for each row reads, in that order; none for other charts. -/
def markFields (s : Spec) : List SpecField :=
  match s.kind with
  | .pie | .funnel => [.valueColumn, .groupBy]
  | .dualAxis => [.valueColumn, .secondaryValueColumn, .groupBy]
  | .histogram => [.valueColumn]
  | _ => []

/-- The fields that are read and not there, by their names. -/
def omissions (s : Spec) : List String :=
  s.markFields.flatMap fun field => if (s.columnOf? field).isNone then [field.name] else []

/-- The keys of the cells that the mark of a row is made from, in the order in which they are read:
the label, the value and the second value. -/
def markKeys (s : Spec) : List String :=
  s.groupBy.toList ++ s.valueKey.toList ++ s.secondaryKey.toList

/-- There is no key of the value exactly where there is no value column. -/
theorem isNone_valueKey (s : Spec) : s.valueKey.isNone = s.valueColumn.isNone :=
  Option.isNone_map

/-- With two axes there is no second key exactly where there is no second column. -/
theorem isNone_secondaryKey {s : Spec} (hkind : s.kind = .dualAxis) :
    s.secondaryKey.isNone = s.secondaryValueColumn.isNone := by
  rw [secondaryKey_of_dualAxis hkind, Option.isNone_map]

end Spec

namespace Row

/-- What a row lacks of a bin: a number of values, and a place on the axis. It has a place if it has
a number in the column or else at both edges of the bin. -/
def binOmissions (column : String) (row : Row) : List String :=
  (if (row.number? (histogramCountKey column)).isNone then [histogramCountKey column] else []) ++
    if (row.number? column).isNone ∧
        ((row.number? binStartKey).isNone ∨ (row.number? binEndKey).isNone) then [column] else []

/-- What a row lacks of its mark, in the order in which it is read. A bin is made from numbers; any
other mark only needs the cells to be there. -/
def omissions (s : Spec) (row : Row) : List String :=
  if s.kind = .histogram then s.valueColumn.toList.flatMap fun column => row.binOmissions column
  else s.markKeys.flatMap fun key => if key ∈ row.keys then [] else [key]

end Row

/-! ## Marks -/

/-- A slice is that of a row at a place. -/
structure PieSlice.IsOf (groupBy key : String) (row : Row) (index : Nat) (slice : PieSlice) :
    Prop where
  /-- The label is that of the row. -/
  label : row.label? groupBy = some slice.label
  /-- The value is that of the row. -/
  value : row.value? key = some slice.value
  /-- The colours of the palette are taken in turn. -/
  color : Rgb.palette[index % Rgb.palette.length]? = some slice.color

/-- A stage is that of a row. -/
structure FunnelStage.IsOf (groupBy key : String) (row : Row) (stage : FunnelStage) : Prop where
  /-- The label is that of the row. -/
  label : row.label? groupBy = some stage.label
  /-- The value is that of the row. -/
  value : row.value? key = some stage.value

/-- A bin is that of a row. -/
structure HistogramBin.IsOf (column : String) (row : Row) (bin : HistogramBin) : Prop where
  /-- The number of values is that of the row. -/
  count : row.number? (histogramCountKey column) = some bin.count
  /-- The lower edge is that of the row, if it has one. -/
  start : row.number? binStartKey = bin.start
  /-- The upper edge is that of the row, if it has one. -/
  stop : row.number? binEndKey = bin.stop
  /-- The place is the number in the column, or else the middle of the edges. -/
  x : row.number? column = some bin.x ∨ row.number? column = none ∧
    ∃ a b, bin.start = some a ∧ bin.stop = some b ∧ bin.x = (a + b) / 2.0

/-- A model has one mark for each row, in the order of the rows, and every mark is that of its
row. -/
def RenderModel.MarksEach (s : Spec) (rows : List Row) : RenderModel → Prop
  | .pie m => s.kind = .pie ∧ s.valueKey = some m.key ∧ ∃ groupBy, s.groupBy = some groupBy ∧
      List.Forall₂ (fun e slice => slice.IsOf groupBy m.key e.1 e.2) rows.zipIdx m.slices
  | .funnel m => s.kind = .funnel ∧ s.valueKey = some m.key ∧ ∃ groupBy, s.groupBy = some groupBy ∧
      List.Forall₂ (fun row stage => stage.IsOf groupBy m.key row) rows m.stages
  | .dualAxis m => s.kind = .dualAxis ∧ s.valueKey = some m.primary.key ∧
      s.secondaryKey = some m.secondary.key ∧
      List.Forall₂ (fun row value => row.value? m.primary.key = some value) rows m.primary.values ∧
      List.Forall₂ (fun row value => row.value? m.secondary.key = some value) rows
        m.secondary.values ∧
      ∃ groupBy, s.groupBy = some groupBy ∧
        List.Forall₂ (fun row label => row.label? groupBy = some label) rows m.categories
  | .histogram m => s.kind = .histogram ∧ ∃ column, s.valueColumn = some column ∧
      m.key = histogramCountKey column ∧
      List.Forall₂ (fun row bin => bin.IsOf column row) rows m.bins
  | _ => False

namespace RenderModel

/-- A model with a mark for each row is of the kind of its specification. -/
theorem kind_of_marksEach {s : Spec} {rows : List Row} {m : RenderModel}
    (h : MarksEach s rows m) : m.kind = s.kind := by
  cases m with
  | pie m => exact h.1.symm
  | funnel m => exact h.1.symm
  | dualAxis m => exact h.1.symm
  | histogram m => exact h.1.symm
  | _ => cases h

/-! ## Reading in order -/

section RefusesFirst

variable {α β γ : Type} {kind : ChartKind}

/-- What is read in order is all there, and then something is made from it, or reading is refused
for the first thing that is omitted. -/
def RefusesFirst (kind : ChartKind) (omitted : List String) (made : β → Prop) :
    Except AdaptError β → Prop
  | .ok y => omitted = [] ∧ made y
  | .error e => ∃ name, omitted.head? = some name ∧ e = .malformedResponse kind name

/-- What is made where nothing is omitted is not refused. -/
theorem refusesFirst_ok {made : β → Prop} {y : β} (h : made y) :
    RefusesFirst kind [] made (.ok y) :=
  ⟨rfl, h⟩

/-- A refusal for the first omission refuses first. -/
theorem refusesFirst_error {omitted : List String} {made : β → Prop} {name : String}
    (h : omitted.head? = some name) :
    RefusesFirst kind omitted made (.error (.malformedResponse kind name)) :=
  ⟨name, h, rfl⟩

/-- What is all there is read. -/
theorem exists_ok_of_refusesFirst {made : β → Prop} {x : Except AdaptError β}
    (h : RefusesFirst kind [] made x) : ∃ y, x = .ok y ∧ made y := by
  cases x with
  | error e =>
    obtain ⟨name, hname, -⟩ := h
    cases hname
  | ok y => exact ⟨y, rfl, h.2⟩

/-- One thing is read after the other. -/
theorem refusesFirst_bind {first rest : List String} {made : β → Prop} {next : γ → Prop}
    {x : Except AdaptError β} {f : β → Except AdaptError γ} (hx : RefusesFirst kind first made x)
    (hf : ∀ y, made y → RefusesFirst kind rest next (f y)) :
    RefusesFirst kind (first ++ rest) next (x >>= f) := by
  cases x with
  | error e =>
    obtain ⟨name, hname, rfl⟩ := hx
    exact ⟨name, by rw [List.head?_append, hname, Option.some_or], rfl⟩
  | ok y =>
    obtain ⟨rfl, hy⟩ := hx
    exact hf y hy

/-- The elements of a list are read one after the other. -/
theorem refusesFirst_mapM {omitted : α → List String} (made : α → β → Prop)
    {f : α → Except AdaptError β} (hf : ∀ x, RefusesFirst kind (omitted x) (made x) (f x))
    (xs : List α) :
    RefusesFirst kind (xs.flatMap omitted) (List.Forall₂ made xs) (xs.mapM f) := by
  induction xs with
  | nil => exact refusesFirst_ok .nil
  | cons x xs ih =>
    rw [List.mapM_cons, List.flatMap_cons]
    refine refusesFirst_bind (hf x) fun y hy => ?_
    rw [← List.append_nil (xs.flatMap omitted)]
    exact refusesFirst_bind ih fun ys hys => refusesFirst_ok (.cons hy hys)

/-- A needed field is there, or it is refused by its name. -/
theorem refusesFirst_needed (field : SpecField) (value : Option String) :
    RefusesFirst kind (if value.isNone then [field.name] else []) (value = some ·)
      (Spec.needed kind field value) := by
  cases value with
  | none => exact refusesFirst_error rfl
  | some name => exact refusesFirst_ok rfl

/-- What is made from something that refuses first refuses first. -/
theorem refusesFirst_map {omitted : List String} {made : β → Prop} {next : γ → Prop}
    {x : Except AdaptError β} {f : β → γ} (hx : RefusesFirst kind omitted made x)
    (hf : ∀ y, made y → next (f y)) : RefusesFirst kind omitted next (f <$> x) := by
  cases x with
  | error e => exact hx
  | ok y => exact ⟨hx.1, hf y hx.2⟩

/-- A cell is there, or it is refused by its key. -/
theorem refusesFirst_cell (row : Row) (key : String) :
    RefusesFirst kind (if key ∈ row.keys then [] else [key]) (row.get? key = some ·)
      (Row.cell kind row key) := by
  unfold Row.cell
  cases hget : row.get? key with
  | none =>
    have hkey : key ∉ row.keys := fun hmem => by
      obtain ⟨v, hv⟩ := Ledger.mem_keys_iff.1 hmem
      rw [hget] at hv
      cases hv
    rw [if_neg hkey]
    exact refusesFirst_error rfl
  | some v =>
    rw [if_pos (Ledger.mem_keys_iff.2 ⟨v, hget⟩)]
    exact refusesFirst_ok rfl

/-- A label is there, or it is refused by its key. -/
theorem refusesFirst_labelAt (row : Row) (key : String) :
    RefusesFirst kind (if key ∈ row.keys then [] else [key]) (row.label? key = some ·)
      (Row.labelAt kind row key) :=
  refusesFirst_map (refusesFirst_cell row key) fun v hv => by rw [Row.label?, hv, Option.map_some]

/-- A value is there, or it is refused by its key. -/
theorem refusesFirst_numberAt (row : Row) (key : String) :
    RefusesFirst kind (if key ∈ row.keys then [] else [key]) (row.value? key = some ·)
      (Row.numberAt kind row key) :=
  refusesFirst_map (refusesFirst_cell row key) fun v hv => by rw [Row.value?, hv, Option.map_some]

/-- A bin is made from the number of values and the place. -/
theorem refusesFirst_binOf (column : String) (row : Row) :
    RefusesFirst .histogram (row.binOmissions column) (fun bin => bin.IsOf column row)
      (binOf column row) := by
  unfold binOf Row.binOmissions
  dsimp only
  cases hcount : row.number? (histogramCountKey column) with
  | none => exact refusesFirst_error rfl
  | some count =>
    cases hx : row.number? column with
    | some x => exact refusesFirst_ok ⟨hcount, rfl, rfl, .inl hx⟩
    | none =>
      cases hstart : row.number? binStartKey with
      | none => exact refusesFirst_error rfl
      | some start =>
        cases hstop : row.number? binEndKey with
        | none => exact refusesFirst_error rfl
        | some stop =>
          exact refusesFirst_ok ⟨hcount, hstart, hstop, .inr ⟨hx, start, stop, rfl, rfl, rfl⟩⟩

end RefusesFirst

/-! ## Charts with a mark for each row -/

variable {s : Spec} {rows : List Row}

/-- All that a chart reads and does not find, the fields of the specification before the rows. -/
def omissions (s : Spec) (rows : List Row) : List String :=
  s.omissions ++ rows.flatMap (Row.omissions s)

/-- The key of the value is there, or its column is refused. -/
theorem refusesFirst_valueKey (kind : ChartKind) (s : Spec) :
    RefusesFirst kind (if s.valueColumn.isNone then [SpecField.valueColumn.name] else [])
      (s.valueKey = some ·) (Spec.needed kind .valueColumn s.valueKey) := by
  rw [← Spec.isNone_valueKey]
  exact refusesFirst_needed .valueColumn s.valueKey

/-- The key of the second value is there, or its column is refused. -/
theorem refusesFirst_secondaryKey (kind : ChartKind) (hkind : s.kind = .dualAxis) :
    RefusesFirst kind
      (if s.secondaryValueColumn.isNone then [SpecField.secondaryValueColumn.name] else [])
      (s.secondaryKey = some ·) (Spec.needed kind .secondaryValueColumn s.secondaryKey) := by
  rw [← Spec.isNone_secondaryKey hkind]
  exact refusesFirst_needed .secondaryValueColumn s.secondaryKey

/-- A histogram marks each row, or it is refused for its first omission. -/
theorem refusesFirst_histogramOf (hkind : s.kind = .histogram) :
    RefusesFirst .histogram (omissions s rows) (MarksEach s rows) (histogramOf s rows) := by
  have hspec : s.omissions =
      if s.valueColumn.isNone then [SpecField.valueColumn.name] else [] := by
    simp [Spec.omissions, Spec.markFields, hkind, Spec.columnOf?]
  rw [omissions, hspec]
  refine refusesFirst_bind (refusesFirst_needed .valueColumn s.valueColumn) fun column hcolumn => ?_
  have hrow : Row.omissions s = fun row => row.binOmissions column := by
    funext row
    simp [Row.omissions, hkind, hcolumn]
  rw [hrow]
  refine refusesFirst_map (refusesFirst_mapM (fun row bin => bin.IsOf column row)
    (refusesFirst_binOf column) rows) fun bins hbins => ?_
  exact ⟨hkind, column, hcolumn, rfl, hbins⟩

section Omissions

variable {groupBy key second : String}

/-- Pies and funnels read two fields of the specification. -/
theorem omissions_labelled (hkind : s.kind = .pie ∨ s.kind = .funnel) :
    s.omissions = (if s.valueColumn.isNone then [SpecField.valueColumn.name] else []) ++
      if s.groupBy.isNone then [SpecField.groupBy.name] else [] := by
  rcases hkind with hkind | hkind <;>
    simp [Spec.omissions, Spec.markFields, hkind, Spec.columnOf?]

/-- They read two cells of a row. -/
theorem row_omissions_labelled (hkind : s.kind = .pie ∨ s.kind = .funnel)
    (hgroup : s.groupBy = some groupBy) (hkey : s.valueKey = some key) (row : Row) :
    row.omissions s = (if groupBy ∈ row.keys then [] else [groupBy]) ++
      if key ∈ row.keys then [] else [key] := by
  rcases hkind with hkind | hkind <;>
    simp [Row.omissions, Spec.markKeys, Spec.secondaryKey, hkind, hgroup, hkey]

/-- Charts with two axes read three fields of the specification. -/
theorem omissions_dualAxis (hkind : s.kind = .dualAxis) :
    s.omissions = (if s.valueColumn.isNone then [SpecField.valueColumn.name] else []) ++
      ((if s.secondaryValueColumn.isNone then [SpecField.secondaryValueColumn.name] else []) ++
        if s.groupBy.isNone then [SpecField.groupBy.name] else []) := by
  simp [Spec.omissions, Spec.markFields, hkind, Spec.columnOf?]

/-- They read three cells of a row. -/
theorem row_omissions_dualAxis (hkind : s.kind = .dualAxis) (hgroup : s.groupBy = some groupBy)
    (hkey : s.valueKey = some key) (hsecond : s.secondaryKey = some second) (row : Row) :
    row.omissions s = (if groupBy ∈ row.keys then [] else [groupBy]) ++
      ((if key ∈ row.keys then [] else [key]) ++ if second ∈ row.keys then [] else [second]) := by
  simp [Row.omissions, Spec.markKeys, hkind, hgroup, hkey, hsecond]

end Omissions

/-- A pie marks each row, or it is refused for its first omission. -/
theorem refusesFirst_pieOf (hkind : s.kind = .pie) :
    RefusesFirst .pie (omissions s rows) (MarksEach s rows) (pieOf s rows) := by
  rw [omissions, omissions_labelled (.inl hkind), List.append_assoc]
  refine refusesFirst_bind (refusesFirst_valueKey .pie s) fun key hkey => ?_
  refine refusesFirst_bind (refusesFirst_needed .groupBy s.groupBy) fun groupBy hgroup => ?_
  -- The place of a row only matters for the colour.
  have hrows : rows.flatMap (Row.omissions s) =
      rows.zipIdx.flatMap fun e => Row.omissions s e.1 := by
    conv_lhs => rw [← List.zipIdx_map_fst 0 rows, List.flatMap_map]
  rw [hrows]
  refine refusesFirst_map (refusesFirst_mapM
    (fun e slice => slice.IsOf groupBy key e.1 e.2) ?_ rows.zipIdx) fun slices hslices => ?_
  · rintro ⟨row, index⟩
    rw [row_omissions_labelled (.inl hkind) hgroup hkey]
    refine refusesFirst_bind (refusesFirst_labelAt row groupBy) fun label hlabel => ?_
    refine refusesFirst_map (refusesFirst_numberAt row key) fun value hvalue => ?_
    exact ⟨hlabel, hvalue, Rgb.palette_ofIndex index⟩
  · exact ⟨hkind, hkey, groupBy, hgroup, hslices⟩

/-- A funnel marks each row, or it is refused for its first omission. -/
theorem refusesFirst_funnelOf (hkind : s.kind = .funnel) :
    RefusesFirst .funnel (omissions s rows) (MarksEach s rows) (funnelOf s rows) := by
  rw [omissions, omissions_labelled (.inr hkind), List.append_assoc]
  refine refusesFirst_bind (refusesFirst_valueKey .funnel s) fun key hkey => ?_
  refine refusesFirst_bind (refusesFirst_needed .groupBy s.groupBy) fun groupBy hgroup => ?_
  refine refusesFirst_map (refusesFirst_mapM
    (fun row stage => stage.IsOf groupBy key row) (fun row => ?_) rows) fun stages hstages => ?_
  · rw [row_omissions_labelled (.inr hkind) hgroup hkey]
    refine refusesFirst_bind (refusesFirst_labelAt row groupBy) fun label hlabel => ?_
    exact refusesFirst_map (refusesFirst_numberAt row key) fun value hvalue => ⟨hlabel, hvalue⟩
  · exact ⟨hkind, hkey, groupBy, hgroup, hstages⟩

/-- A chart with two axes marks each row, or it is refused for its first omission. -/
theorem refusesFirst_dualAxisOf (hkind : s.kind = .dualAxis) :
    RefusesFirst .dualAxis (omissions s rows) (MarksEach s rows) (dualAxisOf s rows) := by
  rw [omissions, omissions_dualAxis hkind, List.append_assoc, List.append_assoc]
  refine refusesFirst_bind (refusesFirst_valueKey .dualAxis s) fun key hkey => ?_
  refine refusesFirst_bind (refusesFirst_secondaryKey .dualAxis hkind) fun second hsecond => ?_
  refine refusesFirst_bind (refusesFirst_needed .groupBy s.groupBy) fun groupBy hgroup => ?_
  refine refusesFirst_map (refusesFirst_mapM
    (fun row point => row.label? groupBy = some point.1 ∧ row.value? key = some point.2.1 ∧
      row.value? second = some point.2.2) (fun row => ?_) rows) fun points hpoints => ?_
  · rw [row_omissions_dualAxis hkind hgroup hkey hsecond]
    refine refusesFirst_bind (refusesFirst_labelAt row groupBy) fun label hlabel => ?_
    refine refusesFirst_bind (refusesFirst_numberAt row key) fun first hfirst => ?_
    exact refusesFirst_map (refusesFirst_numberAt row second) fun other hother =>
      ⟨hlabel, hfirst, hother⟩
  · refine ⟨hkind, hkey, hsecond, ?_, ?_, groupBy, hgroup, ?_⟩
    · exact List.forall₂_map_right_iff.2 (hpoints.imp fun _ _ h => h.2.1)
    · exact List.forall₂_map_right_iff.2 (hpoints.imp fun _ _ h => h.2.2)
    · exact List.forall₂_map_right_iff.2 (hpoints.imp fun _ _ h => h.1)

/-- Every chart with a mark for each row draws an answer that has rows, or refuses it for its first
omission. -/
theorem refusesFirst_ofResponse (displayCap : Nat) {r : Response}
    (hkind : s.kind ∈ [ChartKind.pie, .funnel, .dualAxis, .histogram]) (hne : r.rows ≠ []) :
    RefusesFirst s.kind (omissions s r.rows) (MarksEach s r.rows)
      (ofResponse displayCap s.kind s r) := by
  unfold ofResponse
  rw [Response.isEmpty_eq_false hne, if_neg Bool.false_ne_true]
  cases hk : s.kind with
  | pie => exact refusesFirst_pieOf hk
  | funnel => exact refusesFirst_funnelOf hk
  | dualAxis => exact refusesFirst_dualAxisOf hk
  | histogram => exact refusesFirst_histogramOf hk
  | _ => rw [hk] at hkind; simp at hkind

/-! ## The first omission -/

/-- A name is that of the first thing that is omitted: in the specification, or else in the first
row that lacks something. -/
inductive FirstOmission (s : Spec) (rows : List Row) (name : String) : Prop where
  /-- The specification omits a field. -/
  | spec (h : s.omissions.head? = some name)
  /-- The specification and the first rows are complete, and the next row lacks something. -/
  | row (hspec : s.omissions = []) (before : List Row) (row : Row) (after : List Row)
      (hrows : rows = before ++ row :: after) (hbefore : ∀ b ∈ before, b.omissions s = [])
      (hrow : (row.omissions s).head? = some name)

/-- The first omission of the rows is the first one of all where the specification is complete. -/
theorem firstOmission_rows {name : String} (hspec : s.omissions = [])
    (h : (rows.flatMap (Row.omissions s)).head? = some name) : FirstOmission s rows name := by
  induction rows with
  | nil => cases h
  | cons row rest ih =>
    rw [List.flatMap_cons] at h
    cases homitted : row.omissions s with
    | cons omitted more =>
      rw [homitted] at h
      exact .row hspec [] row rest rfl nofun (homitted ▸ h)
    | nil =>
      rw [homitted] at h
      cases ih h with
      | spec h' =>
        rw [hspec] at h'
        cases h'
      | row _ before other after hrows hbefore hrow =>
        refine .row hspec (row :: before) other after (by rw [hrows]; rfl) ?_ hrow
        exact List.forall_mem_cons.2 ⟨homitted, hbefore⟩

/-- The head of all omissions is the first one. -/
theorem firstOmission_of_omissions {name : String}
    (h : (omissions s rows).head? = some name) : FirstOmission s rows name := by
  cases hspec : s.omissions with
  | cons omitted more =>
    rw [omissions, hspec] at h
    exact .spec (hspec ▸ h)
  | nil =>
    rw [omissions, hspec] at h
    exact firstOmission_rows hspec h

/-- A chart with a mark for each row is drawn with one for every row, or it is refused for the first
thing that is omitted; and it is refused exactly if something is. -/
theorem marks_or_firstOmission {displayCap : Nat} {r : Response}
    (hkind : s.kind ∈ [ChartKind.pie, .funnel, .dualAxis, .histogram]) (hne : r.rows ≠ []) :
    (∀ m, ofResponse displayCap s.kind s r = .ok m → MarksEach s r.rows m) ∧
    (∀ e, ofResponse displayCap s.kind s r = .error e →
      ∃ name, e = .malformedResponse s.kind name ∧ FirstOmission s r.rows name) ∧
    ((∃ e, ofResponse displayCap s.kind s r = .error e) ↔
      s.omissions ≠ [] ∨ ∃ row ∈ r.rows, row.omissions s ≠ []) := by
  have hread := refusesFirst_ofResponse displayCap hkind hne
  have hcomplete : omissions s r.rows = [] ↔
      s.omissions = [] ∧ ∀ row ∈ r.rows, row.omissions s = [] := by
    rw [omissions, List.append_eq_nil_iff, List.flatMap_eq_nil_iff]
  have hlacking : omissions s r.rows ≠ [] ↔
      s.omissions ≠ [] ∨ ∃ row ∈ r.rows, row.omissions s ≠ [] := by
    rw [Ne, hcomplete, not_and_or]
    simp only [not_forall, exists_prop]
  rw [← hlacking]
  cases hdrawn : ofResponse displayCap s.kind s r with
  | ok m =>
    rw [hdrawn] at hread
    refine ⟨fun _ h => ?_, nofun, nofun, fun h => absurd hread.1 h⟩
    cases h
    exact hread.2
  | error e =>
    rw [hdrawn] at hread
    obtain ⟨name, hname, rfl⟩ := hread
    refine ⟨nofun, fun _ h => ?_, fun _ hnone => ?_, fun _ => ⟨_, rfl⟩⟩
    · cases h
      exact ⟨name, rfl, firstOmission_of_omissions hname⟩
    · rw [hnone] at hname
      cases hname

/-- A pie of the number of sales in each year. -/
def yearPie : Spec where
  kind := .pie
  groupBy := some "year"
  valueColumn := some "region"
  aggregation := .count

/-- The number of sales of two years, for the second of them not a number. -/
def twoYears : Response where
  rows := [.ofList [("year", .int 2023), ("region_count", .int 4)],
    .ofList [("region_count", .null), ("year", .null)]]

/-- The number of sales of one year, and a year without one. -/
def halfYears : Response where
  rows := [.ofList [("year", .int 2023), ("region_count", .int 4)],
    .ofList [("year", .int 2024)]]

/-- A pie of two years, of which one has no number, and of one year that lacks its cell. -/
theorem marks_or_firstOmission_years :
    yearPie.kind ∈ [ChartKind.pie, .funnel, .dualAxis, .histogram] ∧
      twoYears.rows ≠ [] ∧ halfYears.rows ≠ [] ∧
      (∃ m, ofResponse 100 .pie yearPie twoYears = .ok m ∧ MarksEach yearPie twoYears.rows m) ∧
      ofResponse 100 .pie yearPie halfYears = .error (.malformedResponse .pie "region_count") ∧
      FirstOmission yearPie halfYears.rows "region_count" := by
  have hkind : yearPie.kind ∈ [ChartKind.pie, .funnel, .dualAxis, .histogram] := by decide
  have htwo : twoYears.rows ≠ [] := List.cons_ne_nil _ _
  have hhalf : halfYears.rows ≠ [] := List.cons_ne_nil _ _
  have hdrawn : ∃ m, ofResponse 100 .pie yearPie twoYears = .ok m := ⟨_, rfl⟩
  have hrefused : ofResponse 100 .pie yearPie halfYears =
      .error (.malformedResponse .pie "region_count") := rfl
  obtain ⟨m, hm⟩ := hdrawn
  obtain ⟨name, hname, hfirst⟩ := (marks_or_firstOmission hkind hhalf).2.1 _ hrefused
  cases hname
  exact ⟨hkind, htwo, hhalf, ⟨m, hm, (marks_or_firstOmission hkind htwo).1 m hm⟩, hrefused, hfirst⟩

end RenderModel

end Chartboard
