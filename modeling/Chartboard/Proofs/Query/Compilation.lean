import Chartboard.Proofs.Chart.Checked
import Chartboard.Proofs.Query.Selection
import Chartboard.Query.Compiled

/-!
# What compilation asks for

A request is compiled from the fields that the kind of chart takes. It is said here when there is
one and which columns and functions it names; the fields are taken as they are written, so a
validated specification compiles to known columns if no field has blanks around it.
-/

namespace Chartboard

open Outcome

namespace Spec

/-! ## Column fields -/

/-- A column is set where its name, once trimmed, is not blank. -/
theorem setColumn?_eq_some {value : Option String} {name : String} :
    setColumn? value = some name ↔
      ∃ written, value = some written ∧ Text.trim written = name ∧
        Text.isBlankText written = false := by
  cases value with
  | none => simp [setColumn?]
  | some written =>
    have hblank : Text.isBlankText written = false ↔ Text.trim written ≠ "" := by
      rw [← Bool.not_eq_true, ← Text.trim_eq_empty_iff]
    simp only [Option.some.injEq, exists_eq_left', hblank]
    unfold setColumn?
    rw [Option.map_some]
    split
    · rename_i heq
      simp [Option.some.inj heq]
    · rename_i hne
      have htrim : Text.trim written ≠ "" := fun h => hne (congrArg some h)
      rw [Option.some.injEq]
      constructor
      · intro hname
        exact ⟨hname, htrim⟩
      · rintro ⟨hname, _⟩
        exact hname

/-- A column is present where its name is written and not blank. It is not trimmed. -/
theorem presentColumn_eq_ok {value : Option String} {field : SpecField} {name : String} :
    presentColumn value field = .ok name ↔
      value = some name ∧ Text.isBlankText name = false := by
  cases value with
  | none => simp [presentColumn]
  | some written =>
    simp only [presentColumn, Option.some.injEq]
    split
    · rename_i hblank
      simp only [reduceCtorEq, false_iff, not_and]
      rintro rfl
      rw [hblank]
      decide
    · rename_i hblank
      rw [Except.ok.injEq]
      constructor
      · rintro rfl
        exact ⟨rfl, Bool.not_eq_true _ ▸ hblank⟩
      · rintro ⟨hname, _⟩
        exact hname

/-- A column is written where it has a name that is not blank. -/
theorem mem_writtenColumn? {value : Option String} {name : String} :
    name ∈ writtenColumn? value ↔ value = some name ∧ Text.isBlankText name = false := by
  unfold writtenColumn?
  rw [List.mem_filter, Option.mem_toList, Bool.not_eq_true']

/-- The names in the column fields. -/
def columnNames (s : Spec) : List String :=
  s.groupBy.toList ++ s.subGroup.toList ++ s.valueColumn.toList ++ s.secondaryValueColumn.toList

/-- No column field has blanks around its name. -/
def isTrimmed (s : Spec) : Bool :=
  s.columnNames.all fun name => Text.trim name == name

/-- In a specification with trimmed names, trimming a name changes nothing. -/
theorem trim_of_isTrimmed {s : Spec} (h : s.isTrimmed) {name : String}
    (hname : name ∈ s.columnNames) : Text.trim name = name :=
  eq_of_beq (List.all_eq_true.1 h name hname)

/-! ## Requests -/

/-- The request of a histogram. -/
def histogramRequest (value : String) (bins : Nat) (limits : QueryLimits) (filters : FilterSet) :
    Request where
  aggregates := [⟨value, .count⟩]
  filters := filters.toFilters
  limit := limits.rows
  isHistogram := true
  bins := some bins

/-- The request of any other chart. -/
def groupRequest (s : Spec) (value : String) (groupBy : List String) (aggregates : List Aggregate)
    (limits : QueryLimits) (filters : FilterSet) : Request where
  groupBy
  aggregates
  sortBy := s.requestSort value
  filters := filters.toFilters
  limit := if s.kind = .kpi then limits.kpi else limits.rows

/-- A histogram compiles exactly where its value column is present and its number of bins is set. -/
theorem compile_histogram {s : Spec} (h : s.kind = .histogram) {limits : QueryLimits}
    {filters : FilterSet} {request : Request} :
    s.compile limits filters = .ok request ↔
      ∃ value bins, presentColumn s.valueColumn .valueColumn = .ok value ∧ s.bins = some bins ∧
        histogramRequest value bins limits filters = request := by
  unfold compile
  rw [bind_eq_ok]
  simp only [h, if_true]
  constructor
  · rintro ⟨value, hvalue, hrequest⟩
    cases hbins : s.bins with
    | none =>
      rw [hbins] at hrequest
      cases hrequest
    | some bins =>
      rw [hbins] at hrequest
      exact ⟨value, bins, hvalue, rfl, pure_eq_ok.1 hrequest⟩
  · rintro ⟨value, bins, hvalue, hbins, rfl⟩
    refine ⟨value, hvalue, ?_⟩
    rw [hbins]
    rfl

/-- Every other kind compiles exactly where its value column, its group columns and its aggregates
are all there. -/
theorem compile_groups {s : Spec} (h : s.kind ≠ .histogram) {limits : QueryLimits}
    {filters : FilterSet} {request : Request} :
    s.compile limits filters = .ok request ↔
      ∃ value groupBy aggregates, presentColumn s.valueColumn .valueColumn = .ok value ∧
        s.groupColumns = .ok groupBy ∧ s.requestAggregates value = .ok aggregates ∧
        s.groupRequest value groupBy aggregates limits filters = request := by
  unfold compile
  rw [bind_eq_ok]
  simp only [h, if_false, bind_eq_ok, pure_eq_ok]
  constructor
  · rintro ⟨value, hvalue, groupBy, hgroupBy, aggregates, haggregates, hrequest⟩
    exact ⟨value, groupBy, aggregates, hvalue, hgroupBy, haggregates, hrequest⟩
  · rintro ⟨value, groupBy, aggregates, hvalue, hgroupBy, haggregates, hrequest⟩
    exact ⟨value, hvalue, groupBy, hgroupBy, aggregates, haggregates, hrequest⟩

/-- Every request carries the filters that it is compiled with. -/
theorem filters_of_compile {s : Spec} {limits : QueryLimits} {filters : FilterSet}
    {request : Request} (h : s.compile limits filters = .ok request) :
    request.filters = filters.toFilters := by
  by_cases hkind : s.kind = .histogram
  · obtain ⟨value, bins, -, -, rfl⟩ := (compile_histogram hkind).1 h
    rfl
  · obtain ⟨value, groupBy, aggregates, -, -, -, rfl⟩ := (compile_groups hkind).1 h
    rfl

/-- The limit of the requests of a chart. -/
def limitOf (s : Spec) (limits : QueryLimits) : Nat :=
  if s.kind = .kpi then limits.kpi else limits.rows

/-- Whether a specification compiles does not depend on filters and limits, and they have no part in
a request but for its filters and its limit. -/
theorem compile_eq_map (s : Spec) (limits : QueryLimits) (filters : FilterSet) :
    s.compile limits filters =
      (fun request => { request with filters := filters.toFilters, limit := s.limitOf limits }) <$>
        s.compile {} ∅ := by
  unfold compile
  cases presentColumn s.valueColumn .valueColumn with
  | error e => rfl
  | ok value =>
    show (if s.kind = .histogram then _ else _) = _ <$> (if s.kind = .histogram then _ else _)
    by_cases hkind : s.kind = .histogram
    · have hlimit : s.limitOf limits = limits.rows := by
        rw [limitOf, if_neg (by rw [hkind]; decide)]
      rw [if_pos hkind, if_pos hkind, hlimit]
      cases s.bins with
      | none => rfl
      | some bins => rfl
    · rw [if_neg hkind, if_neg hkind]
      cases s.groupColumns with
      | error e => rfl
      | ok groupBy =>
        cases s.requestAggregates value with
        | error e => rfl
        | ok aggregates => rfl

/-- A grouping column of the request is the groups' or the series' field as it is written. -/
theorem mem_groupColumns {s : Spec} {groupBy : List String} (h : s.groupColumns = .ok groupBy)
    {name : String} (hname : name ∈ groupBy) :
    (s.groupBy = some name ∨ s.effectiveSubGroup = some name) ∧
      Text.isBlankText name = false := by
  have hwritten : ∀ column, name ∈ column :: writtenColumn? s.effectiveSubGroup →
      presentColumn s.groupBy .groupBy = .ok column →
      (s.groupBy = some name ∨ s.effectiveSubGroup = some name) ∧
        Text.isBlankText name = false := by
    intro column hmem hcolumn
    rcases List.mem_cons.1 hmem with rfl | hsub
    · have hgroup := presentColumn_eq_ok.1 hcolumn
      exact ⟨Or.inl hgroup.1, hgroup.2⟩
    · have hseries := mem_writtenColumn?.1 hsub
      exact ⟨Or.inr hseries.1, hseries.2⟩
  unfold groupColumns at h
  split at h
  · cases h
    cases hname
  · cases h
    rcases List.mem_append.1 hname with hgroup | hsub
    · have hgroup := mem_writtenColumn?.1 hgroup
      exact ⟨Or.inl hgroup.1, hgroup.2⟩
    · have hseries := mem_writtenColumn?.1 hsub
      exact ⟨Or.inr hseries.1, hseries.2⟩
  · obtain ⟨column, hcolumn, hpure⟩ := bind_eq_ok.1 h
    cases hpure
    exact hwritten column hname hcolumn

/-- The groups' field of a chart with an axis of groups is the first grouping column. -/
theorem groupColumns_of_requiresGroupBy {s : Spec} (hrequires : s.kind.requiresGroupBy)
    {groupBy : List String} (h : s.groupColumns = .ok groupBy) :
    ∃ name, s.groupBy = some name ∧ name ∈ groupBy := by
  unfold groupColumns at h
  split at h
  · rename_i hkind
    rw [hkind] at hrequires
    cases hrequires
  · rename_i hkind
    rw [hkind] at hrequires
    cases hrequires
  · obtain ⟨column, hcolumn, hpure⟩ := bind_eq_ok.1 h
    cases hpure
    exact ⟨column, (presentColumn_eq_ok.1 hcolumn).1, List.mem_cons_self⟩

/-- All kinds but tables, single values and histograms require a group column. -/
theorem requiresGroupBy_iff (kind : ChartKind) :
    kind.requiresGroupBy ↔ kind ≠ .table ∧ kind ≠ .kpi ∧ kind ≠ .histogram := by
  cases kind <;> decide

/-- The group columns are found where the one that the kind requires is present. -/
theorem groupColumns_total {s : Spec} (hkind : s.kind ≠ .histogram)
    (h : s.kind.requiresGroupBy → ∃ name, presentColumn s.groupBy .groupBy = .ok name) :
    ∃ groupBy, s.groupColumns = .ok groupBy := by
  unfold groupColumns
  split
  · exact ⟨_, rfl⟩
  · exact ⟨_, rfl⟩
  · rename_i hkpi htable
    obtain ⟨name, hname⟩ := h ((requiresGroupBy_iff _).2 ⟨htable, hkpi, hkind⟩)
    exact ⟨_, bind_eq_ok.2 ⟨name, hname, rfl⟩⟩

/-- A request has one aggregate, and a second one of the secondary column for two axes. -/
theorem requestAggregates_eq_ok {s : Spec} {value : String} {aggregates : List Aggregate} :
    s.requestAggregates value = .ok aggregates ↔
      (s.kind ≠ .dualAxis ∧ aggregates = [⟨value, s.aggregation⟩]) ∨
      (s.kind = .dualAxis ∧ ∃ secondary,
        presentColumn s.secondaryValueColumn .secondaryValueColumn = .ok secondary ∧
        aggregates = [⟨value, s.aggregation⟩, ⟨secondary, s.aggregation⟩]) := by
  unfold requestAggregates
  by_cases hdual : s.kind = .dualAxis
  · rw [if_pos hdual]
    simp only [bind_eq_ok, pure_eq_ok, hdual, ne_eq, not_true_eq_false, false_and, true_and,
      false_or, eq_comm (a := aggregates)]
  · rw [if_neg hdual]
    simp only [Except.ok.injEq, hdual, ne_eq, not_false_eq_true, true_and, false_and, or_false,
      eq_comm (a := aggregates)]

/-- The request of a chart with an axis of groups: its grouping columns and its aggregates. -/
theorem compile_grouped {s : Spec} (hrequires : s.kind.requiresGroupBy) {limits : QueryLimits}
    {filters : FilterSet} {request : Request} (h : s.compile limits filters = .ok request) :
    ∃ groupBy value, presentColumn s.groupBy .groupBy = .ok groupBy ∧
      presentColumn s.valueColumn .valueColumn = .ok value ∧
      request.groupBy = groupBy :: writtenColumn? s.effectiveSubGroup ∧
      s.requestAggregates value = .ok request.aggregates ∧
      request.filters = filters.toFilters ∧ request.isHistogram = false := by
  obtain ⟨htable, hkpi, hhistogram⟩ := (requiresGroupBy_iff s.kind).1 hrequires
  obtain ⟨value, columns, aggregates, hvalue, hcolumns, haggregates, rfl⟩ :=
    (compile_groups hhistogram).1 h
  unfold groupColumns at hcolumns
  split at hcolumns
  · next hkind => exact absurd hkind hkpi
  · next hkind => exact absurd hkind htable
  · obtain ⟨groupBy, hgroupBy, hpure⟩ := bind_eq_ok.1 hcolumns
    cases hpure
    exact ⟨groupBy, value, hgroupBy, hvalue, rfl, haggregates, rfl, rfl⟩

end Spec

/-! ## Requests that a table can answer -/

/-- A request asks a table only for what is there. -/
structure Request.Fits (r : Request) (t : Table) : Prop where
  /-- The grouping columns are columns of the table. -/
  groupBy_known : ∀ name ∈ r.groupBy, name ∈ t.names
  /-- The aggregated columns are columns of the table. -/
  aggregates_known : ∀ a ∈ r.aggregates, a.column ∈ t.names
  /-- The filtered columns are columns of the table. -/
  filters_known : ∀ f ∈ r.filters, f.column ∈ t.names
  /-- Functions that need numbers are applied to numeric columns only. -/
  functions_suit : ∀ a ∈ r.aggregates, a.function.requiresNumeric →
    ∃ dtype, t.catalog.dtypeOf a.column = some dtype ∧ dtype.isNumeric
  /-- A histogram has one numeric column and from two to a hundred bins. -/
  histogram_suits : r.isHistogram → ∃ column dtype bins, r.aggregates = [⟨column, .count⟩] ∧
    t.catalog.dtypeOf column = some dtype ∧ dtype.isNumeric ∧ r.bins = some bins ∧ 2 ≤ bins ∧
    bins ≤ 100

namespace Table

/-- The catalog of a table with columns knows the columns of the table alone. -/
theorem knows_catalog_iff {t : Table} (hcolumns : t.columns ≠ []) {name : String} :
    t.catalog.Knows name ↔ name ∈ t.names := by
  have hempty : t.catalog.isEmpty = false := by
    unfold Catalog.isEmpty catalog
    rw [List.isEmpty_map, List.isEmpty_eq_false_iff]
    exact hcolumns
  unfold Catalog.Knows
  rw [hempty, catalog_contains_iff]
  simp

/-- Every column of a table has a type in its catalog. -/
theorem dtypeOf_total {t : Table} {name : String} (h : name ∈ t.names) :
    ∃ dtype, t.catalog.dtypeOf name = some dtype := by
  obtain ⟨ref, href⟩ := Option.isSome_iff_exists.1 (column?_isSome_iff.2 h)
  exact ⟨ref.type.dtype, by rw [catalog_dtypeOf, href]; rfl⟩

/-- A column that a numeric function may aggregate has a numeric type. -/
theorem numeric_of_aggregates {t : Table} {name : String} {function : Aggregation}
    (hname : name ∈ t.names) (h : t.catalog.Aggregates name function)
    (hrequires : function.requiresNumeric) :
    ∃ dtype, t.catalog.dtypeOf name = some dtype ∧ dtype.isNumeric := by
  obtain ⟨dtype, hdtype⟩ := dtypeOf_total hname
  exact ⟨dtype, hdtype, h dtype hdtype hrequires⟩

end Table

namespace Spec

/-- A set column without blanks around it is present as it is written. -/
theorem present_of_set {s : Spec} (hs : s.isTrimmed) {value : Option String} (field : SpecField)
    (hvalue : ∀ name, value = some name → name ∈ s.columnNames) {name : String}
    (h : setColumn? value = some name) : presentColumn value field = .ok name := by
  obtain ⟨written, hwritten, htrim, hblank⟩ := setColumn?_eq_some.1 h
  rw [trim_of_isTrimmed hs (hvalue written hwritten)] at htrim
  subst htrim
  exact presentColumn_eq_ok.2 ⟨hwritten, hblank⟩

/-- A column with a trimmed name is set where it is present. -/
theorem set_of_present {s : Spec} (hs : s.isTrimmed) {value : Option String}
    (hvalue : ∀ name, value = some name → name ∈ s.columnNames) {name : String}
    (h : value = some name) (hblank : Text.isBlankText name = false) :
    setColumn? value = some name :=
  setColumn?_eq_some.2 ⟨name, h, trim_of_isTrimmed hs (hvalue name h), hblank⟩

/-- The group column is one of the names of a specification. -/
theorem groupBy_mem_columnNames {s : Spec} (name : String) (h : s.groupBy = some name) :
    name ∈ s.columnNames := by
  simp [columnNames, h]

/-- The value column is one of the names of a specification. -/
theorem valueColumn_mem_columnNames {s : Spec} (name : String) (h : s.valueColumn = some name) :
    name ∈ s.columnNames := by
  simp [columnNames, h]

/-- The secondary value column is one of the names of a specification. -/
theorem secondary_mem_columnNames {s : Spec} (name : String)
    (h : s.secondaryValueColumn = some name) : name ∈ s.columnNames := by
  simp [columnNames, h]

/-- A set column is present, with the blanks around it. -/
theorem exists_present_of_set {value : Option String} {name : String}
    (h : setColumn? value = some name) (field : SpecField) :
    ∃ written, presentColumn value field = .ok written := by
  obtain ⟨written, hwritten, -, hblank⟩ := setColumn?_eq_some.1 h
  exact ⟨written, presentColumn_eq_ok.2 ⟨hwritten, hblank⟩⟩

/-- A validated specification compiles. -/
theorem compile_total {s : Spec} {c : Catalog} (h : s.Checked c) (limits : QueryLimits)
    (filters : FilterSet) : ∃ request, s.compile limits filters = .ok request := by
  obtain ⟨column, hcolumn, -, -⟩ := h.value
  obtain ⟨value, hvalue⟩ := exists_present_of_set hcolumn .valueColumn
  by_cases hkind : s.kind = .histogram
  · obtain ⟨bins, hbins, -, -⟩ := h.bins hkind
    exact ⟨_, (compile_histogram hkind).2 ⟨value, bins, hvalue, hbins, rfl⟩⟩
  · have hgroup : s.kind.requiresGroupBy →
        ∃ name, presentColumn s.groupBy .groupBy = .ok name := by
      intro hrequires
      obtain ⟨name, hname⟩ := Option.isSome_iff_exists.1 (h.groupBy_set hrequires)
      exact exists_present_of_set hname .groupBy
    obtain ⟨groupBy, hgroupBy⟩ := groupColumns_total hkind hgroup
    have haggregates : ∃ aggregates, s.requestAggregates value = .ok aggregates := by
      by_cases hdual : s.kind = .dualAxis
      · obtain ⟨name, hname, -, -⟩ := h.secondary hdual
        obtain ⟨secondary, hsecondary⟩ := exists_present_of_set hname .secondaryValueColumn
        exact ⟨_, requestAggregates_eq_ok.2 (Or.inr ⟨hdual, secondary, hsecondary, rfl⟩)⟩
      · exact ⟨_, requestAggregates_eq_ok.2 (Or.inl ⟨hdual, rfl⟩)⟩
    obtain ⟨aggregates, haggregates⟩ := haggregates
    exact ⟨_, (compile_groups hkind).2
      ⟨value, groupBy, aggregates, hvalue, hgroupBy, haggregates, rfl⟩⟩

section Fits

variable {s : Spec} {t : Table} {limits : QueryLimits} {filters : FilterSet} {request : Request}
  (hcolumns : t.columns ≠ []) (hs : s.isTrimmed) (h : s.Checked t.catalog)
  (hfilters : ∀ f ∈ filters.toFilters, f.column ∈ t.names)
  (hrequest : s.compile limits filters = .ok request)

include hcolumns hs h

/-- The value column of a validated specification is there and suits the kind of chart. -/
theorem presentValue_known {value : String}
    (hvalue : presentColumn s.valueColumn .valueColumn = .ok value) :
    value ∈ t.names ∧
      if s.kind = .histogram then t.catalog.Bins value
      else t.catalog.Aggregates value s.aggregation := by
  obtain ⟨value', hset, hknown, hsuits⟩ := h.value
  have hpresent := present_of_set hs .valueColumn valueColumn_mem_columnNames hset
  have hsame : value = value' := Except.ok.inj (hvalue.symm.trans hpresent)
  rw [hsame]
  exact ⟨(Table.knows_catalog_iff hcolumns).1 hknown, hsuits⟩

/-- The second axis of a valid specification is a column of the table that its function may
aggregate. -/
theorem presentSecondary_known (hdual : s.kind = .dualAxis) {second : String}
    (hsecond : presentColumn s.secondaryValueColumn .secondaryValueColumn = .ok second) :
    second ∈ t.names ∧ t.catalog.Aggregates second s.aggregation := by
  obtain ⟨second', hset, hknown, hsuits⟩ := h.secondary hdual
  have hpresent := present_of_set hs .secondaryValueColumn secondary_mem_columnNames hset
  have hsame : second = second' := Except.ok.inj (hsecond.symm.trans hpresent)
  rw [hsame]
  exact ⟨(Table.knows_catalog_iff hcolumns).1 hknown, hsuits⟩

/-- All aggregates of a valid specification are of columns of the table that its function may
aggregate. -/
theorem requestAggregates_known (hkind : s.kind ≠ .histogram) {value : String}
    (hvalue : presentColumn s.valueColumn .valueColumn = .ok value) {aggregates : List Aggregate}
    (haggregates : s.requestAggregates value = .ok aggregates) :
    ∀ a ∈ aggregates, a.column ∈ t.names ∧ t.catalog.Aggregates a.column a.function := by
  have hknown := presentValue_known hcolumns hs h hvalue
  rw [if_neg hkind] at hknown
  rcases requestAggregates_eq_ok.1 haggregates with ⟨_, rfl⟩ | ⟨hdual, second, hsecond, rfl⟩
  · intro a ha
    rw [List.mem_singleton.1 ha]
    exact hknown
  · intro a ha
    rcases List.mem_cons.1 ha with rfl | ha
    · exact hknown
    · rw [List.mem_singleton.1 ha]
      exact presentSecondary_known hcolumns hs h hdual hsecond

/-- All group columns of a valid specification are columns of the table. -/
theorem groupColumns_known {groupBy : List String} (hgroupBy : s.groupColumns = .ok groupBy) :
    ∀ name ∈ groupBy, name ∈ t.names := by
  intro name hname
  obtain ⟨hfield, hblank⟩ := mem_groupColumns hgroupBy hname
  rcases hfield with hgroup | hsub
  · exact (Table.knows_catalog_iff hcolumns).1
      (h.groupBy_known name (set_of_present hs groupBy_mem_columnNames hgroup hblank))
  · exact (Table.knows_catalog_iff hcolumns).1 (h.subGroup_known name hsub)

include hfilters hrequest

/-- The request of a valid histogram fits the table. -/
theorem compile_histogram_fits (hkind : s.kind = .histogram) : request.Fits t := by
  obtain ⟨value, bins, hvalue, hbins, rfl⟩ := (compile_histogram hkind).1 hrequest
  obtain ⟨hknown, hsuits⟩ := presentValue_known hcolumns hs h hvalue
  rw [if_pos hkind] at hsuits
  obtain ⟨dtype, hdtype⟩ := Table.dtypeOf_total hknown
  obtain ⟨n, hn, hmin, hmax⟩ := h.bins hkind
  have hcount : bins = n := Option.some.inj (hbins.symm.trans hn)
  subst hcount
  constructor
  · intro name hname
    cases hname
  · intro a ha
    rw [List.mem_singleton.1 ha]
    exact hknown
  · exact hfilters
  · intro a ha hrequires
    rw [List.mem_singleton.1 ha] at hrequires
    cases hrequires
  · intro _
    exact ⟨value, dtype, bins, rfl, hdtype, hsuits dtype hdtype, rfl, hmin, hmax⟩

/-- The request of a valid specification of another kind fits the table. -/
theorem compile_groups_fits (hkind : s.kind ≠ .histogram) : request.Fits t := by
  obtain ⟨value, groupBy, aggregates, hvalue, hgroupBy, haggregates, rfl⟩ :=
    (compile_groups hkind).1 hrequest
  have hknown := requestAggregates_known hcolumns hs h hkind hvalue haggregates
  constructor
  · exact groupColumns_known hcolumns hs h hgroupBy
  · intro a ha
    exact (hknown a ha).1
  · exact hfilters
  · intro a ha hrequires
    exact Table.numeric_of_aggregates (hknown a ha).1 (hknown a ha).2 hrequires
  · intro hhistogram
    cases hhistogram

end Fits

/-- What compiles from a validated specification asks the table only for what is there. -/
theorem compile_fits {s : Spec} {t : Table} (hcolumns : t.columns ≠ []) (hs : s.isTrimmed)
    (h : s.Checked t.catalog) {limits : QueryLimits} {filters : FilterSet}
    (hfilters : ∀ f ∈ filters.toFilters, f.column ∈ t.names) {request : Request}
    (hrequest : s.compile limits filters = .ok request) : request.Fits t := by
  by_cases hkind : s.kind = .histogram
  · exact compile_histogram_fits hcolumns hs h hfilters hrequest hkind
  · exact compile_groups_fits hcolumns hs h hfilters hrequest hkind

end Spec

end Chartboard
