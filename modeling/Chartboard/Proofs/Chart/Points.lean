import Chartboard.Proofs.Query.CrossFilter
import Chartboard.Proofs.Render.Pivoting

/-!
# Rows as points

A bar, line or area chart shows the rows of its answer as points of a grid. The labels of a row are
those of its cells, so two rows meet in the grid exactly if their cells look alike in all grouping
columns. Different rows have different cells, but null looks like the text `null`: where one row has
null and another one the text, the later of the two hides the other one.
-/

namespace Chartboard

open Json (Value)
open Outcome

/-! ## The point of a row -/

/-- The point that a row of an answer stands for. Without a series column, the series is that of the
value. -/
def Spec.point? (s : Spec) (row : Row) : Option Point := do
  let key ← s.valueKey
  let groupBy ← s.groupBy
  let category ← row.get? groupBy
  let value ← row.get? key
  let series ← match writtenColumn? s.effectiveSubGroup with
    | [] => some key
    | subGroup :: _ => (row.get? subGroup).map Value.label
  some ⟨category.label, series, value.asNumber?⟩

/-- The cells of two rows look alike in some columns. -/
def Row.LooksLike (columns : List String) (row other : Row) : Prop :=
  ∀ name ∈ columns, ∀ v w, row.get? name = some v → other.get? name = some w →
    Chartboard.LooksLike v w

/-- Two rows look alike although they are not: in some column one of them has null and the other
one the text `null`. -/
def Row.Confused (columns : List String) (row other : Row) : Prop :=
  Row.LooksLike columns row other ∧ ∃ name ∈ columns,
    (row.get? name = some .null ∧ other.get? name = some (.string "null")) ∨
      (row.get? name = some (.string "null") ∧ other.get? name = some .null)

/-- Rows that look alike are confused if they have all cells and not the same ones. -/
theorem Row.LooksLike.confused {columns : List String} {row other : Row}
    (h : Row.LooksLike columns row other)
    (hcells : ∀ name ∈ columns, ∃ v w, row.get? name = some v ∧ other.get? name = some w)
    (hne : ∃ name ∈ columns, row.get? name ≠ other.get? name) : Row.Confused columns row other := by
  obtain ⟨name, hname, hne⟩ := hne
  obtain ⟨v, w, hv, hw⟩ := hcells name hname
  refine ⟨h, name, hname, ?_⟩
  rcases h name hname v w hv hw with rfl | ⟨rfl, rfl⟩ | ⟨rfl, rfl⟩
  · exact absurd (hv.trans hw.symm) hne
  · exact .inl ⟨hv, hw⟩
  · exact .inr ⟨hv, hw⟩

/-- Rows with different texts in a column are not confused. -/
theorem Row.not_confused_of_texts {columns : List String} {row other : Row} {name : String}
    (hname : name ∈ columns) {x y : String} (hrow : row.get? name = some (.string x))
    (hother : other.get? name = some (.string y)) (hne : x ≠ y) :
    ¬Row.Confused columns row other := by
  rintro ⟨h, -⟩
  rcases h name hname _ _ hrow hother with heq | ⟨heq, -⟩ | ⟨-, heq⟩
  · cases heq
    exact hne rfl
  · cases heq
  · cases heq

/-- At most one series column is written. -/
theorem writtenColumn?_cases (value : Option String) :
    Spec.writtenColumn? value = [] ∨
      ∃ name, value = some name ∧ Spec.writtenColumn? value = [name] := by
  cases value with
  | none => exact .inl rfl
  | some name =>
    cases hblank : Text.isBlankText name with
    | true => exact .inl (by simp [Spec.writtenColumn?, hblank])
    | false => exact .inr ⟨name, rfl, by simp [Spec.writtenColumn?, hblank]⟩

/-- The key of an aggregate holds more than blanks. -/
theorem Aggregate.isBlankText_key (a : Aggregate) : Text.isBlankText a.key = false := by
  have hmem : '_' ∈ a.key.toList := by simp [key]
  rw [Text.isBlankText, List.all_eq_false]
  exact ⟨'_', hmem, by decide⟩

/-- Within one column the labels of two rows are the same exactly if their cells look alike. -/
theorem Table.label_readAt_eq_iff {t : Table} (ht : t.isWellTyped) {name : String}
    (hname : name ∈ t.names) {first second : Record} (hfirst : first ∈ t.records)
    (hsecond : second ∈ t.records) :
    (t.readAt name first).label = (t.readAt name second).label ↔
      LooksLike (t.readAt name first) (t.readAt name second) := by
  obtain ⟨ref, href⟩ := Table.column_total hname
  obtain ⟨cells, hcells⟩ := Table.exists_kind ht href
  exact label_eq_iff (hcells first hfirst) (hcells second hsecond)

namespace RenderModel

/-- Rows that are read one by one into rows of a grid with one point each. -/
theorem exists_points {s : Spec} {rows : List Row}
    {read : Row → Except AdaptError (String × List (String × Option Float))}
    (h : ∀ row ∈ rows, ∃ p, s.point? row = some p ∧ read row = .ok p.gridRow) :
    ∃ points : List Point, rows.map s.point? = points.map some ∧
      rows.mapM read = .ok (points.map Point.gridRow) := by
  induction rows with
  | nil => exact ⟨[], rfl, rfl⟩
  | cons row rest ih =>
    obtain ⟨p, hp, hread⟩ := h row List.mem_cons_self
    obtain ⟨points, hpoints, hrest⟩ := ih fun other hother =>
      h other (List.mem_cons_of_mem row hother)
    refine ⟨p :: points, ?_, ?_⟩
    · rw [List.map_cons, List.map_cons, hp, hpoints]
    · rw [List.mapM_cons, hread, hrest]
      rfl

/-- What the grid of a bar, line or area chart is made from: a grouping column, perhaps a series
column, and one value. -/
structure GridRequest (s : Spec) (request : Request) (groupBy : String) (a : Aggregate) : Prop where
  /-- The grouping column is that of the specification. -/
  groupBy_eq : s.groupBy = some groupBy
  /-- The grouping column has a name. -/
  groupBy_named : Text.isBlankText groupBy = false
  /-- The value is that of the specification. -/
  valueKey_eq : s.valueKey = some a.key
  /-- The groups are told apart by the grouping column and the series column. -/
  columns : request.groupBy = groupBy :: Spec.writtenColumn? s.effectiveSubGroup
  /-- There is one value. -/
  aggregates : request.aggregates = [a]
  /-- The rows are not binned. -/
  isHistogram : request.isHistogram = false
  /-- The columns of the answer have different names. -/
  names : (request.groupBy ++ request.aggregates.map Aggregate.key).Nodup

/-- A request for a grid has a grouping column. -/
theorem GridRequest.groupBy_ne_nil {s : Spec} {request : Request} {groupBy : String} {a : Aggregate}
    (h : GridRequest s request groupBy a) : request.groupBy ≠ [] := by
  rw [h.columns]
  exact List.cons_ne_nil _ _

section GridRequest

variable {s : Spec} {t : Table} {request : Request} {groupBy : String} {a : Aggregate}
  (h : GridRequest s request groupBy a) (kind : ChartKind) (first : Record) (others : List Record)

include h

/-- A series column without a name is not among the columns of the answer. -/
theorem GridRequest.not_mem_keys_of_unnamed {subGroup : String}
    (hsub : s.effectiveSubGroup = some subGroup)
    (hplain : Spec.writtenColumn? s.effectiveSubGroup = []) {first : Record}
    {others : List Record} :
    subGroup ∉ (t.groupRow request first others).keys := by
  have hblank : Text.isBlankText subGroup = true := by
    rw [hsub] at hplain
    simpa [Spec.writtenColumn?] using hplain
  rw [Table.mem_keys_groupRow, h.columns, hplain, h.aggregates, List.map_singleton,
    List.mem_singleton, List.mem_singleton]
  rintro (rfl | rfl)
  · rw [h.groupBy_named] at hblank
    cases hblank
  · rw [a.isBlankText_key] at hblank
    cases hblank

/-- The cell of a group under a grouping column is that of its rows. -/
theorem get?_column {name : String} (hname : name ∈ request.groupBy) :
    (t.groupRow request first others).get? name = some (t.readAt name first) := by
  have hapart := (List.nodup_append.1 h.names).2.2
  exact Table.get?_groupRow_key hname (fun hkey => hapart name hname name hkey rfl) first others

/-- The cell of a group under the key of the value is what the function makes of its rows. -/
theorem get?_value :
    (t.groupRow request first others).get? a.key = some (t.aggregated a (first :: others)) := by
  have ha : a ∈ request.aggregates := by
    rw [h.aggregates]
    exact List.mem_singleton_self a
  refine Table.get?_groupRow_aggregate ha (fun b hb _ => ?_) first others
  rw [h.aggregates] at hb
  exact List.mem_singleton.1 hb

/-- The cell of a group under the column of the categories is that of its rows. -/
theorem get?_groupBy :
    (t.groupRow request first others).get? groupBy = some (t.readAt groupBy first) :=
  get?_column h first others (by rw [h.columns]; exact List.mem_cons_self)

/-- Without a series column a row is a point of the series of the value. -/
theorem point?_plain (hplain : Spec.writtenColumn? s.effectiveSubGroup = []) :
    s.point? (t.groupRow request first others) =
      some ⟨(t.readAt groupBy first).label, a.key,
        (t.aggregated a (first :: others)).asNumber?⟩ := by
  simp [Spec.point?, h.valueKey_eq, h.groupBy_eq, get?_groupBy h, get?_value h, hplain]

/-- With a series column a row is a point of the series of its cell. -/
theorem point?_long {subGroup : String}
    (hlong : Spec.writtenColumn? s.effectiveSubGroup = [subGroup]) :
    s.point? (t.groupRow request first others) =
      some ⟨(t.readAt groupBy first).label, (t.readAt subGroup first).label,
        (t.aggregated a (first :: others)).asNumber?⟩ := by
  have hseries : (t.groupRow request first others).get? subGroup =
      some (t.readAt subGroup first) :=
    get?_column h first others (by rw [h.columns, hlong]; simp)
  simp [Spec.point?, h.valueKey_eq, h.groupBy_eq, get?_groupBy h, get?_value h, hlong, hseries]

/-- Without series a group is read as its category, with its value under the key of the value. -/
theorem plainRow_groupRow :
    plainRow kind groupBy a.key (t.groupRow request first others) =
      .ok ((t.readAt groupBy first).label,
        [(a.key, (t.aggregated a (first :: others)).asNumber?)]) := by
  rw [plainRow, Row.labelAt_of_get? kind (get?_groupBy h first others),
    Row.numberAt_of_get? kind (get?_value h first others)]
  rfl

/-- With series a group is read as its category, with its value under the label of its series. -/
theorem longRow_groupRow {subGroup : String}
    (hlong : Spec.writtenColumn? s.effectiveSubGroup = [subGroup]) :
    longRow kind groupBy subGroup a.key (t.groupRow request first others) =
      .ok ((t.readAt groupBy first).label,
        [((t.readAt subGroup first).label, (t.aggregated a (first :: others)).asNumber?)]) := by
  have hseries : (t.groupRow request first others).get? subGroup =
      some (t.readAt subGroup first) :=
    get?_column h first others (by rw [h.columns, hlong]; simp)
  rw [longRow, Row.labelAt_of_get? kind (get?_groupBy h first others),
    Row.labelAt_of_get? kind hseries, Row.numberAt_of_get? kind (get?_value h first others)]
  rfl

/-- Of the wide shape is only a row with one grouping column, and it has no other series than that
of the value. -/
theorem wideRow_groupRow (hplain : Spec.writtenColumn? s.effectiveSubGroup = []) :
    wideRow kind groupBy (t.groupRow request first others) =
      .ok ((t.readAt groupBy first).label,
        [(a.key, (t.aggregated a (first :: others)).asNumber?)]) := by
  have hcolumns : request.groupBy = [groupBy] := by rw [h.columns, hplain]
  have hne : groupBy ≠ a.key := by
    have hnames := h.names
    rw [hcolumns, h.aggregates] at hnames
    exact fun heq => (List.nodup_cons.1 hnames).1 (List.mem_singleton.2 heq)
  have hentries : (t.groupRow request first others).entries =
      [(groupBy, t.readAt groupBy first), (a.key, t.aggregated a (first :: others))] := by
    rw [Table.groupRow, hcolumns, h.aggregates]
    simp [Ledger.ofList, Ledger.insert, Ledger.insertEntry, Ledger.empty, hne, Table.aggregated]
  rw [wideRow, Row.labelAt_of_get? kind (get?_groupBy h first others), hentries]
  simp [hne.symm]

/-- Rows of groups are read as the points that they stand for, whatever the shape. -/
theorem gridRows_groupRows {rows : List Row} (hrows : rows ≠ [])
    (hgroups : ∀ row ∈ rows, ∃ first others, row = t.groupRow request first others) :
    ∃ points : List Point, rows.map s.point? = points.map some ∧
      gridRows kind s groupBy a.key rows = .ok (points.map Point.gridRow) := by
  rcases writtenColumn?_cases s.effectiveSubGroup with hplain | ⟨subGroup, hsub, hlong⟩
  · have hread : ∀ read : Row → Except AdaptError (String × List (String × Option Float)),
        (∀ first others, read (t.groupRow request first others) =
          .ok ((t.readAt groupBy first).label,
            [(a.key, (t.aggregated a (first :: others)).asNumber?)])) →
        ∃ points : List Point, rows.map s.point? = points.map some ∧
          rows.mapM read = .ok (points.map Point.gridRow) := by
      intro read hread
      refine exists_points fun row hrow => ?_
      obtain ⟨first, others, rfl⟩ := hgroups row hrow
      exact ⟨_, point?_plain h first others hplain, hread first others⟩
    cases hsub : s.effectiveSubGroup with
    | none =>
      simp only [gridRows, hsub]
      exact hread _ (plainRow_groupRow h kind)
    | some subGroup =>
      -- A series column without a name is not asked for, so no row has it.
      obtain ⟨row, hrow⟩ := List.exists_mem_of_ne_nil rows hrows
      have hlacking : (rows.all fun row => row.contains subGroup) = false := by
        rw [List.all_eq_false]
        refine ⟨row, hrow, fun hcontains => ?_⟩
        obtain ⟨first, others, rfl⟩ := hgroups row hrow
        rw [Ledger.contains_iff] at hcontains
        exact h.not_mem_keys_of_unnamed hsub hplain hcontains
      simp only [gridRows, hsub, hlacking, Bool.false_eq_true, if_false]
      exact hread _ fun first others => wideRow_groupRow h kind first others hplain
  · have hall : (rows.all fun row => row.contains subGroup) = true := by
      rw [List.all_eq_true]
      intro row hrow
      obtain ⟨first, others, rfl⟩ := hgroups row hrow
      rw [Ledger.contains_iff, ← Ledger.get?_isSome_iff,
        get?_column h first others (by rw [h.columns, hlong]; simp)]
      rfl
    simp only [gridRows, hsub, hall, if_true]
    refine exists_points fun row hrow => ?_
    obtain ⟨first, others, rfl⟩ := hgroups row hrow
    exact ⟨_, point?_long h first others hlong, longRow_groupRow h kind first others hlong⟩

/-- Two rows meet in the grid exactly if they look alike. -/
theorem meets_iff_looksLike (ht : t.isWellTyped) (hknown : ∀ name ∈ request.groupBy, name ∈ t.names)
    {first second : Record} (hfirst : first ∈ t.records) (hsecond : second ∈ t.records)
    {others more : List Record} {p q : Point}
    (hp : s.point? (t.groupRow request first others) = some p)
    (hq : s.point? (t.groupRow request second more) = some q) :
    p.Meets q ↔ Row.LooksLike request.groupBy (t.groupRow request first others)
      (t.groupRow request second more) := by
  have hlooks : Row.LooksLike request.groupBy (t.groupRow request first others)
      (t.groupRow request second more) ↔
      ∀ name ∈ request.groupBy,
        (t.readAt name first).label = (t.readAt name second).label := by
    refine forall₂_congr fun name hname => ?_
    rw [get?_column h first others hname, get?_column h second more hname,
      Table.label_readAt_eq_iff ht (hknown name hname) hfirst hsecond]
    constructor
    · exact fun hlooks => hlooks _ _ rfl rfl
    · rintro hlooks v w hv hw
      cases hv
      cases hw
      exact hlooks
  rw [hlooks, h.columns, Point.Meets]
  rcases writtenColumn?_cases s.effectiveSubGroup with hplain | ⟨subGroup, -, hlong⟩
  · rw [point?_plain h first others hplain] at hp
    rw [point?_plain h second more hplain] at hq
    cases hp
    cases hq
    simp [hplain]
  · rw [point?_long h first others hlong] at hp
    rw [point?_long h second more hlong] at hq
    cases hp
    cases hq
    simp [hlong]

end GridRequest

/-- The rows of the answer to a request for a grid are those of groups. -/
theorem GridRequest.exists_group {s : Spec} {t : Table} {request : Request} {groupBy : String}
    {a : Aggregate} (h : GridRequest s request groupBy a) {response : Response}
    (hrun : t.run request = .ok response) {row : Row} (hrow : row ∈ response.rows) :
    ∃ first others, first ∈ t.records ∧ row = t.groupRow request first others := by
  obtain ⟨keyRefs, first, others, -, hmembers, heq⟩ :=
    Table.exists_group_of_mem_rows h.groupBy_ne_nil h.isHistogram hrun hrow
  exact ⟨first, others, Table.mem_records_of_members hmembers, heq⟩

/-- Two rows of the answer look alike only if they are confused. -/
theorem GridRequest.pairwise_not_confused_iff {s : Spec} {t : Table} {request : Request}
    {groupBy : String} {a : Aggregate} (h : GridRequest s request groupBy a) {response : Response}
    (hrun : t.run request = .ok response) :
    (response.rows.Pairwise fun row other => ¬Row.Confused request.groupBy row other) ↔
      response.rows.Pairwise fun row other => ¬Row.LooksLike request.groupBy row other := by
  refine ⟨fun hclear => ?_, fun hapart => hapart.imp fun hnot hconfused => hnot hconfused.1⟩
  have hapart := (List.nodup_append.1 h.names).2.2
  have hdiffer := Table.rows_differ h.groupBy_ne_nil h.isHistogram
    (fun name hname hkey => hapart name hname name hkey rfl) hrun
  refine (hdiffer.and hclear).imp_of_mem fun {row other} hrow hother hpair hlooks => ?_
  obtain ⟨first, others, -, rfl⟩ := h.exists_group hrun hrow
  obtain ⟨second, more, -, rfl⟩ := h.exists_group hrun hother
  exact hpair.2 (hlooks.confused (fun name hname => ⟨_, _, get?_column h first others hname,
    get?_column h second more hname⟩) hpair.1)

/-- What compiles from a bar, line or area chart asks for a grid. -/
theorem gridRequest_of_compile {s : Spec} (hkind : s.kind.supportsSubGroup) {limits : QueryLimits}
    {filters : FilterSet} {request : Request} (hcompile : s.compile limits filters = .ok request)
    (hnames : (request.groupBy ++ request.aggregates.map Aggregate.key).Nodup) :
    ∃ groupBy a, GridRequest s request groupBy a := by
  have hrequires : s.kind.requiresGroupBy := by
    cases hk : s.kind with
    | bar => rfl
    | line => rfl
    | area => rfl
    | _ => rw [hk] at hkind; cases hkind
  have hdual : s.kind ≠ .dualAxis := fun hk => by
    rw [hk] at hkind
    cases hkind
  obtain ⟨groupBy, value, hgroupBy, hvalue, hcolumns, haggregates, -, hhistogram⟩ :=
    Spec.compile_grouped hrequires hcompile
  obtain ⟨hgroup, hnamed⟩ := Spec.presentColumn_eq_ok.1 hgroupBy
  have hone : request.aggregates = [⟨value, s.aggregation⟩] := by
    rcases Spec.requestAggregates_eq_ok.1 haggregates with ⟨-, hone⟩ | ⟨hdual', -⟩
    · exact hone
    · exact absurd hdual' hdual
  exact ⟨groupBy, ⟨value, s.aggregation⟩, hgroup, hnamed,
    Spec.valueKey_of_valueColumn (Spec.presentColumn_eq_ok.1 hvalue).1, hcolumns, hone, hhistogram,
    hnames⟩

/-- A bar, line or area chart draws the points of its rows. -/
theorem ofResponse_grid (displayCap : Nat) {s : Spec} (hkind : s.kind.supportsSubGroup)
    {request : Request} {groupBy : String} {a : Aggregate} (h : GridRequest s request groupBy a)
    {t : Table} {response : Response} (hrows : response.rows ≠ [])
    (hgroups : ∀ row ∈ response.rows, ∃ first others, row = t.groupRow request first others) :
    ∃ points : List Point, response.rows.map s.point? = points.map some ∧
      ofResponse displayCap s.kind s response =
        .ok (.categorical (pointModel s.kind s points)) := by
  obtain ⟨points, hpoints, hgrid⟩ := gridRows_groupRows h s.kind hrows hgroups
  exact ⟨points, hpoints, (ofResponse_categorical hkind).2
    ⟨hrows, a.key, groupBy, _, h.valueKey_eq, h.groupBy_eq, hgrid, rfl⟩⟩

end RenderModel

namespace Spec

/-- Every row stands for one of the points. -/
theorem exists_point {s : Spec} {rows : List Row} {points : List Point}
    (h : rows.map s.point? = points.map some) {row : Row} (hrow : row ∈ rows) :
    ∃ p ∈ points, s.point? row = some p := by
  have hmem := List.mem_map_of_mem hrow (f := s.point?)
  rw [h] at hmem
  obtain ⟨p, hp, heq⟩ := List.mem_map.1 hmem
  exact ⟨p, hp, heq.symm⟩

/-- The points of some rows do not meet exactly if those of two rows never do. -/
theorem pairwise_points_iff {s : Spec} {rows : List Row} {points : List Point}
    (h : rows.map s.point? = points.map some) :
    (points.Pairwise fun p q => ¬p.Meets q) ↔
      rows.Pairwise fun row other =>
        ∀ p q, s.point? row = some p → s.point? other = some q → ¬p.Meets q := by
  have hrows := @List.pairwise_map _ _ s.point?
    (fun x y => ∀ p q, x = some p → y = some q → ¬p.Meets q) rows
  have hpoints := @List.pairwise_map _ _ (some : Point → Option Point)
    (fun x y => ∀ p q, x = some p → y = some q → ¬p.Meets q) points
  rw [← hrows, h, hpoints]
  refine ⟨fun hapart => hapart.imp fun hnot p q hp hq => ?_,
    fun hapart => hapart.imp fun hnot => hnot _ _ rfl rfl⟩
  cases hp
  cases hq
  exact hnot

/-- A bar, line or area chart of which the columns in the answer have different names shows every
row of the answer at a place of its own, with its value, and gaps at all other places, exactly if
the answer has rows and no two of them are confused. -/
theorem shown_each_iff {s : Spec} {t : Table} (ht : t.isWellTyped) (hkind : s.kind.supportsSubGroup)
    {limits : QueryLimits} {filters : FilterSet} {request : Request}
    (hcompile : s.compile limits filters = .ok request)
    (hnames : (request.groupBy ++ request.aggregates.map Aggregate.key).Nodup)
    {response : Response} (hrun : t.run request = .ok response) (displayCap : Nat) :
    (∃ m points, RenderModel.ofResponse displayCap s.kind s response = .ok (.categorical m) ∧
      response.rows.map s.point? = points.map some ∧ m.ShowsEach points) ↔
      response.rows ≠ [] ∧
        response.rows.Pairwise fun row other => ¬Row.Confused request.groupBy row other := by
  obtain ⟨groupBy, a, hgrid⟩ := RenderModel.gridRequest_of_compile hkind hcompile hnames
  have hknown := Table.groupBy_known_of_run hgrid.groupBy_ne_nil hgrid.isHistogram hrun
  by_cases hrows : response.rows = []
  · rw [RenderModel.ofResponse_of_isEmpty displayCap s.kind s hrows]
    constructor
    · rintro ⟨m, points, hdrawn, -⟩
      cases hdrawn
    · exact fun h => absurd hrows h.1
  · obtain ⟨points, hpoints, hdrawn⟩ := RenderModel.ofResponse_grid displayCap hkind hgrid hrows
      fun row hrow => (hgrid.exists_group hrun hrow).imp fun first h => h.imp fun others h => h.2
    have hshown : (∃ m points, RenderModel.ofResponse displayCap s.kind s response =
        .ok (.categorical m) ∧ response.rows.map s.point? = points.map some ∧
          m.ShowsEach points) ↔ points.Pairwise fun p q => ¬p.Meets q := by
      rw [hdrawn, hpoints, ← RenderModel.showsEach_iff s.kind s]
      constructor
      · rintro ⟨m, others, hm, hothers, hshows⟩
        cases hm
        obtain rfl := List.map_injective_iff.2 (Option.some_injective _) hothers
        exact hshows
      · exact fun hshows => ⟨_, points, rfl, rfl, hshows⟩
    rw [hshown, and_iff_right hrows, pairwise_points_iff hpoints,
      hgrid.pairwise_not_confused_iff hrun]
    refine List.Pairwise.iff_of_mem fun {row other} hrow hother => ?_
    obtain ⟨first, others, hfirst, rfl⟩ := hgrid.exists_group hrun hrow
    obtain ⟨second, more, hsecond, rfl⟩ := hgrid.exists_group hrun hother
    obtain ⟨p, -, hp⟩ := exists_point hpoints hrow
    obtain ⟨q, -, hq⟩ := exists_point hpoints hother
    rw [← RenderModel.meets_iff_looksLike hgrid ht hknown hfirst hsecond hp hq]
    constructor
    · exact fun hapart hmeets => hapart p q hp hq hmeets
    · intro hapart p' q' hp' hq' hmeets
      rw [hp] at hp'
      rw [hq] at hq'
      cases hp'
      cases hq'
      exact hapart hmeets

/-- Sales of two products in two regions. -/
def productTable : Table where
  columns := [⟨"region", .text⟩, ⟨"product", .text⟩]
  records := [[.text "East", .text "Pens"], [.text "West", .text "Ink"],
    [.text "East", .text "Ink"]]

/-- The number of sales in each region, a series for each product. -/
def productBars : Spec where
  kind := .bar
  groupBy := some "region"
  subGroup := some "product"
  valueColumn := some "region"
  aggregation := .count

/-- The request for the number of sales in each region of each product. -/
def productRequest : Request where
  groupBy := ["region", "product"]
  aggregates := [⟨"region", .count⟩]
  limit := 1000

/-- The row of a region and a product. -/
def productRow (region product : Value) (count : Int) : Row :=
  .ofList [("region", region), ("product", product), ("region_count", .int count)]

/-- The answer for the sales of two products in two regions. -/
def productResponse : Response where
  rows := [productRow (.string "East") (.string "Pens") 1,
    productRow (.string "West") (.string "Ink") 1, productRow (.string "East") (.string "Ink") 1]
  totalRows := some 3
  columns := ["region", "product", "region_count"]

/-- No two rows of the answer look alike. -/
theorem productRows_apart : productResponse.rows.Pairwise fun row other =>
    ¬Row.Confused productRequest.groupBy row other := by
  have hregion : "region" ∈ productRequest.groupBy := List.mem_cons_self
  have hproduct : "product" ∈ productRequest.groupBy := by decide
  refine .cons ?_ (.cons ?_ (List.pairwise_singleton _ _))
  · intro other hother
    rcases List.mem_pair.1 hother with rfl | rfl
    · exact Row.not_confused_of_texts hregion rfl rfl (by decide)
    · exact Row.not_confused_of_texts hproduct rfl rfl (by decide)
  · intro other hother
    obtain rfl := List.mem_singleton.1 hother
    exact Row.not_confused_of_texts hregion rfl rfl (by decide)

/-- The bars show every region and product at a place of its own. -/
theorem shown_each_productBars :
    productTable.isWellTyped ∧ productBars.kind.supportsSubGroup ∧
      productBars.compile {} ∅ = .ok productRequest ∧
      (productRequest.groupBy ++ productRequest.aggregates.map Aggregate.key).Nodup ∧
      productTable.run productRequest = .ok productResponse ∧
      ∃ m points, RenderModel.ofResponse 100 .bar productBars productResponse =
          .ok (.categorical m) ∧
        productResponse.rows.map productBars.point? = points.map some ∧ m.ShowsEach points := by
  have hwell : productTable.isWellTyped := by decide
  have hcompile : productBars.compile {} ∅ = .ok productRequest := rfl
  have hnames : (productRequest.groupBy ++ productRequest.aggregates.map Aggregate.key).Nodup := by
    decide
  have hrun : productTable.run productRequest = .ok productResponse := rfl
  exact ⟨hwell, rfl, hcompile, hnames, hrun, (shown_each_iff hwell rfl hcompile hnames hrun 100).2
    ⟨List.cons_ne_nil _ _, productRows_apart⟩⟩

/-- Two sales of a product that nobody named and one of the product `null`. -/
def nullTable : Table where
  columns := [⟨"region", .text⟩, ⟨"product", .text⟩]
  records := [[.text "East", .null], [.text "East", .null], [.text "East", .text "null"]]

/-- The answer for the two products. -/
def nullResponse : Response where
  rows := [productRow (.string "East") .null 2, productRow (.string "East") (.string "null") 1]
  totalRows := some 2
  columns := ["region", "product", "region_count"]

/-- The two rows have one place, so the first of them is not shown. -/
theorem nullRows_meet :
    nullTable.isWellTyped ∧ productBars.validate nullTable.catalog = .ok () ∧
      ∃ request response, productBars.compile {} ∅ = .ok request ∧
        (request.groupBy ++ request.aggregates.map Aggregate.key).Nodup ∧
        nullTable.run request = .ok response ∧
        response.rows = [productRow (.string "East") .null 2,
          productRow (.string "East") (.string "null") 1] ∧
        ¬∃ m points, RenderModel.ofResponse 100 .bar productBars response = .ok (.categorical m) ∧
          response.rows.map productBars.point? = points.map some ∧ m.ShowsEach points := by
  refine ⟨by decide, rfl, productRequest, nullResponse, rfl, by decide, rfl, rfl, ?_⟩
  rintro ⟨m, points, hdrawn, hpoints, hshows⟩
  have htwo : points.length = 2 := by
    have hlengths := congrArg List.length hpoints
    rw [List.length_map, List.length_map] at hlengths
    exact hlengths.symm
  have hone : m.categories.length * m.series.length = 1 := by
    cases hdrawn
    rfl
  have hplaces := hshows.length_le
  omega

end Spec

end Chartboard
