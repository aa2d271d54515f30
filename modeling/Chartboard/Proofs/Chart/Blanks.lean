import Chartboard.Proofs.Chart.Points
import Chartboard.Proofs.Chart.Relevance
import Chartboard.Proofs.Chart.Required
import Chartboard.Proofs.Render.Gridding
import Chartboard.Proofs.Render.Readable

/-!
# Column names of blanks alone

A column field that holds only blanks is meant to be unset. It is, for the grouping column and for
both value columns, and requests never name such a column. Only the series column of bars, lines and
areas is taken as a name by everything else: validation looks its blanks up, bars are no longer
coloured by their side of the mean, and an answer is drawn as if it had series.
-/

namespace Chartboard

open Outcome

/-! ## Fields without blank names -/

/-- A column field, or none if it holds only blanks. -/
def withoutBlankName (field : Option String) : Option String :=
  if isUnset field then none else field

section Fields

variable {field : Option String}

/-- A field that is unset, or set to blanks, is taken as none. -/
theorem withoutBlankName_of_unset (h : isUnset field = true) : withoutBlankName field = none :=
  if_pos h

/-- A name that is not blank stays as it is written. -/
theorem withoutBlankName_of_set (h : isUnset field = false) : withoutBlankName field = field :=
  if_neg (by rw [h]; exact Bool.false_ne_true)

/-- A field counts as unset with or without its blanks. -/
theorem isUnset_withoutBlankName (field : Option String) :
    isUnset (withoutBlankName field) = isUnset field := by
  cases h : isUnset field with
  | true =>
    rw [withoutBlankName_of_unset h]
    rfl
  | false => rw [withoutBlankName_of_set h, h]

end Fields

namespace Spec

/-- Validation looks up the same column. -/
theorem setColumn?_withoutBlankName (value : Option String) :
    setColumn? (withoutBlankName value) = setColumn? value := by
  cases h : isUnset value with
  | true =>
    rw [withoutBlankName_of_unset h, setColumn?_eq_none.2 h]
    rfl
  | false => rw [withoutBlankName_of_set h]

/-- A required column is found under a blank name no more than under none. -/
theorem requiredColumn_withoutBlankName (value : Option String) (field : SpecField) :
    requiredColumn (withoutBlankName value) field = requiredColumn value field := by
  unfold requiredColumn
  rw [setColumn?_withoutBlankName]

/-- Requests name the same column. -/
theorem presentColumn_withoutBlankName (value : Option String) (field : SpecField) :
    presentColumn (withoutBlankName value) field = presentColumn value field := by
  cases h : isUnset value with
  | true =>
    rw [withoutBlankName_of_unset h, presentColumn_eq_error.2 ⟨h, rfl⟩]
    rfl
  | false => rw [withoutBlankName_of_set h]

/-- A column with a blank name is not written to a request, and neither is one without a name. -/
theorem writtenColumn?_withoutBlankName (value : Option String) :
    writtenColumn? (withoutBlankName value) = writtenColumn? value := by
  cases value with
  | none => rfl
  | some name =>
    cases h : isUnset (some name) with
    | true =>
      have hblank : Text.isBlankText name = true := h
      rw [withoutBlankName_of_unset h]
      simp [writtenColumn?, hblank]
    | false => rw [withoutBlankName_of_set h]

/-- The specification without the column names of blanks alone. -/
def withoutBlankNames (s : Spec) : Spec :=
  { s with
    groupBy := withoutBlankName s.groupBy
    subGroup := withoutBlankName s.subGroup
    valueColumn := withoutBlankName s.valueColumn
    secondaryValueColumn := withoutBlankName s.secondaryValueColumn }

/-- Taking blank names away takes the series column away exactly if it is blank. -/
theorem effectiveSubGroup_withoutBlankNames (s : Spec) :
    s.withoutBlankNames.effectiveSubGroup = withoutBlankName s.effectiveSubGroup := by
  unfold effectiveSubGroup
  change (if s.kind.supportsSubGroup then withoutBlankName s.subGroup else none) = _
  split
  · rfl
  · rfl

/-- The hint for the user names the same field with blank names as with none. -/
theorem missingField_withoutBlankNames (s : Spec) :
    s.withoutBlankNames.missingField = s.missingField := by
  unfold missingField withoutBlankNames
  simp only [isUnset_withoutBlankName]

/-! ## Requests -/

/-- The grouping columns of the request do not depend on blank names. -/
theorem groupColumns_withoutBlankNames (s : Spec) :
    s.withoutBlankNames.groupColumns = s.groupColumns := by
  unfold groupColumns
  rw [effectiveSubGroup_withoutBlankNames]
  simp only [withoutBlankNames, writtenColumn?_withoutBlankName, presentColumn_withoutBlankName]

/-- The aggregates of the request do not depend on blank names. -/
theorem requestAggregates_withoutBlankNames (s : Spec) (value : String) :
    s.withoutBlankNames.requestAggregates value = s.requestAggregates value := by
  unfold requestAggregates
  simp only [withoutBlankNames, presentColumn_withoutBlankName]

/-- Without the blank names the same is asked for, or the same field is missed. -/
theorem compile_withoutBlankNames (s : Spec) (limits : QueryLimits) (filters : FilterSet) :
    s.withoutBlankNames.compile limits filters = s.compile limits filters := by
  have hsort : s.withoutBlankNames.requestSort = s.requestSort := rfl
  unfold compile
  rw [groupColumns_withoutBlankNames, hsort]
  simp only [requestAggregates_withoutBlankNames]
  simp only [withoutBlankNames, presentColumn_withoutBlankName]
  rfl

/-! ## Series columns of blanks alone -/

/-- The kind of chart takes a series column, and blanks stand there instead of a name. -/
def BlankSeries (s : Spec) (blanks : String) : Prop :=
  s.effectiveSubGroup = some blanks ∧ Text.isBlankText blanks = true

/-- Only a kind of chart that takes a series column can have a blank one. -/
theorem BlankSeries.supportsSubGroup {s : Spec} {blanks : String} (h : s.BlankSeries blanks) :
    s.kind.supportsSubGroup = true := by
  cases hkind : s.kind.supportsSubGroup with
  | true => rfl
  | false => exact nomatch (effectiveSubGroup_eq_none hkind).symm.trans h.1

/-- Every kind of chart that takes a series column requires a grouping column. -/
theorem requiresGroupBy_of_series {s : Spec} (h : s.kind.supportsSubGroup = true) :
    s.kind.requiresGroupBy = true := by
  revert h
  cases s.kind <;> decide

/-- A blank series column is gone once blank names are taken away. -/
theorem BlankSeries.effectiveSubGroup_eq {s : Spec} {blanks : String} (h : s.BlankSeries blanks) :
    s.withoutBlankNames.effectiveSubGroup = none := by
  rw [effectiveSubGroup_withoutBlankNames, h.1]
  exact withoutBlankName_of_unset h.2

/-- A series column that has a name, or is not taken, stays. -/
theorem effectiveSubGroup_of_named {s : Spec} (h : ∀ blanks, ¬s.BlankSeries blanks) :
    s.withoutBlankNames.effectiveSubGroup = s.effectiveSubGroup := by
  rw [effectiveSubGroup_withoutBlankNames]
  cases hseries : s.effectiveSubGroup with
  | none => rfl
  | some name =>
    refine withoutBlankName_of_set ?_
    cases hblank : Text.isBlankText name with
    | true => exact absurd ⟨hseries, hblank⟩ (h name)
    | false => exact hblank

/-- The colours are lost by blanks in place of the series column, if bars are to have them. -/
theorem colorsByMean_withoutBlankNames_iff (s : Spec) :
    s.colorsByMean = s.withoutBlankNames.colorsByMean ↔
      ¬(s.kind = .bar ∧ s.conditionalColoring = true ∧ ∃ blanks, s.BlankSeries blanks) := by
  have hcolors : s.withoutBlankNames.colorsByMean =
      (s.conditionalColoring && s.kind == .bar &&
        s.withoutBlankNames.effectiveSubGroup.isNone) := rfl
  rw [hcolors, colorsByMean]
  by_cases hblank : ∃ blanks, s.BlankSeries blanks
  · obtain ⟨blanks, h⟩ := hblank
    rw [h.1, h.effectiveSubGroup_eq]
    simp only [Option.isNone_some, Option.isNone_none, Bool.and_false, Bool.and_true]
    rw [eq_comm, ← Bool.not_eq_true, Bool.and_eq_true, beq_iff_eq, and_comm]
    have hseries : ∃ blanks, s.BlankSeries blanks := ⟨blanks, h⟩
    simp only [hseries, and_true]
  · rw [effectiveSubGroup_of_named (not_exists.1 hblank)]
    exact iff_of_true rfl fun h => hblank h.2.2

/-! ## Validation -/

/-- Validation gets as far as the series column: a value column is set, and a grouping column that
the catalog has. -/
def ReachesSeries (s : Spec) (c : Catalog) : Prop :=
  (∃ value, setColumn? s.valueColumn = some value) ∧
    ∃ group, setColumn? s.groupBy = some group ∧ c.Knows group

/-- The check of the grouping column does not depend on blank names. -/
theorem checkedGroupBy_withoutBlankNames (s : Spec) :
    s.withoutBlankNames.checkedGroupBy = s.checkedGroupBy := by
  unfold checkedGroupBy
  simp only [withoutBlankNames, requiredColumn_withoutBlankName, setColumn?_withoutBlankName]

/-- The checks of the value columns do not depend on blank names. -/
theorem checkValues_withoutBlankNames (s : Spec) (c : Catalog) (value : String) :
    s.withoutBlankNames.checkValues c value = s.checkValues c value := by
  unfold checkValues
  simp only [withoutBlankNames, requiredColumn_withoutBlankName]
  rfl

/-- Without the blank names another series column is looked up, and nothing else. -/
theorem validate_withoutBlankNames (s : Spec) (c : Catalog) :
    s.withoutBlankNames.validate c = (do
      let groupBy ← s.checkedGroupBy
      let value ← requiredColumn s.valueColumn .valueColumn
      checkOptional c .groupBy groupBy
      checkOptional c .subGroup s.withoutBlankNames.effectiveSubGroup
      s.checkValues c value) := by
  have hvalue : requiredColumn s.withoutBlankNames.valueColumn .valueColumn =
      requiredColumn s.valueColumn .valueColumn := requiredColumn_withoutBlankName _ _
  rw [validate_eq, checkedGroupBy_withoutBlankNames, hvalue]
  simp only [checkValues_withoutBlankNames]

/-- The checks go on with the series column where they get so far. -/
theorem checks_of_reaching {s : Spec} {c : Catalog} {value group : String}
    (hvalue : setColumn? s.valueColumn = some value) (hgroup : setColumn? s.groupBy = some group)
    (hknown : c.Knows group) (series : Option String) :
    (do
      let groupBy ← s.checkedGroupBy
      let value ← requiredColumn s.valueColumn .valueColumn
      checkOptional c .groupBy groupBy
      checkOptional c .subGroup series
      s.checkValues c value) = (do
      checkOptional c .subGroup series
      s.checkValues c value) := by
  have hchecked : s.checkedGroupBy = .ok (some group) :=
    checkedGroupBy_eq_ok.2 ⟨hgroup, fun _ => rfl⟩
  have hpassed : c.checkKnown .groupBy group = .ok () := Catalog.checkKnown_eq_ok.2 hknown
  rw [hchecked, requiredColumn_eq_ok.2 hvalue]
  change (c.checkKnown .groupBy group >>= fun _ => _) = _
  rw [hpassed]
  rfl

/-- Where the checks do not get so far the series column does not matter. -/
theorem checks_of_not_reaching {s : Spec} {c : Catalog} (hrequires : s.kind.requiresGroupBy = true)
    (h : ¬s.ReachesSeries c) (series other : Option String) :
    (do
      let groupBy ← s.checkedGroupBy
      let value ← requiredColumn s.valueColumn .valueColumn
      checkOptional c .groupBy groupBy
      checkOptional c .subGroup series
      s.checkValues c value) = (do
      let groupBy ← s.checkedGroupBy
      let value ← requiredColumn s.valueColumn .valueColumn
      checkOptional c .groupBy groupBy
      checkOptional c .subGroup other
      s.checkValues c value) := by
  cases hgroup : setColumn? s.groupBy with
  | none =>
    have hrefused : s.checkedGroupBy = .error (.missingField .groupBy) :=
      checkedGroupBy_eq_error.2 ⟨⟨hrequires, setColumn?_eq_none.1 hgroup⟩, rfl⟩
    rw [hrefused]
    rfl
  | some group =>
    have hchecked : s.checkedGroupBy = .ok (some group) :=
      checkedGroupBy_eq_ok.2 ⟨hgroup, fun _ => rfl⟩
    rw [hchecked]
    cases hvalue : setColumn? s.valueColumn with
    | none =>
      rw [requiredColumn_eq_error.2 ⟨hvalue, rfl⟩]
      rfl
    | some value =>
      have hunknown : ¬c.Knows group := fun hknown => h ⟨⟨value, hvalue⟩, group, hgroup, hknown⟩
      have hrefused : c.checkKnown .groupBy group = .error (.unknownColumn .groupBy group) :=
        Catalog.checkKnown_eq_error.2 ⟨hunknown, rfl⟩
      rw [requiredColumn_eq_ok.2 hvalue]
      change (c.checkKnown .groupBy group >>= fun _ => _) =
        (c.checkKnown .groupBy group >>= fun _ => _)
      rw [hrefused]
      rfl

/-- Validation tells the two apart exactly if it gets to blanks in place of the series column that
the catalog does not have as a name. -/
theorem validate_withoutBlankNames_iff (s : Spec) (c : Catalog) :
    s.validate c = s.withoutBlankNames.validate c ↔
      ¬(s.ReachesSeries c ∧ ∃ blanks, s.BlankSeries blanks ∧ ¬c.Knows blanks) := by
  rw [validate_withoutBlankNames, validate_eq]
  by_cases hblank : ∃ blanks, s.BlankSeries blanks
  · obtain ⟨blanks, h⟩ := hblank
    have hsole : ∀ other, s.BlankSeries other → other = blanks :=
      fun other hother => Option.some.inj (hother.1.symm.trans h.1)
    rw [h.1, h.effectiveSubGroup_eq]
    by_cases hreach : s.ReachesSeries c
    · obtain ⟨⟨value, hvalue⟩, group, hgroup, hknown⟩ := hreach
      rw [checks_of_reaching hvalue hgroup hknown, checks_of_reaching hvalue hgroup hknown]
      by_cases hblanks : c.Knows blanks
      · have hfound : checkOptional c .subGroup (some blanks) = .ok () :=
          Catalog.checkKnown_eq_ok.2 hblanks
        rw [hfound]
        refine iff_of_true rfl ?_
        rintro ⟨-, other, hother, hlacks⟩
        rw [hsole other hother] at hlacks
        exact hlacks hblanks
      · have hmissed : checkOptional c .subGroup (some blanks) =
            .error (.unknownColumn .subGroup blanks) :=
          Catalog.checkKnown_eq_error.2 ⟨hblanks, rfl⟩
        rw [hmissed]
        refine iff_of_false (fun hsame => ?_)
          (not_not_intro ⟨⟨⟨value, hvalue⟩, group, hgroup, hknown⟩, blanks, h, hblanks⟩)
        -- No other rule refuses the series column.
        have herror : s.checkValues c value = .error (.unknownColumn .subGroup blanks) := hsame.symm
        exact (field_of_checkValues herror).2 rfl
    · have hrequires : s.kind.requiresGroupBy = true := requiresGroupBy_of_series h.supportsSubGroup
      exact iff_of_true (checks_of_not_reaching hrequires hreach _ _) fun hboth => hreach hboth.1
  · rw [effectiveSubGroup_of_named (not_exists.1 hblank)]
    exact iff_of_true rfl fun ⟨_, blanks, h, _⟩ => hblank ⟨blanks, h⟩

/-! ## Drawings -/

/-- What the kind of chart requires is set in a specification that compiles. -/
theorem not_unset_of_compile {s : Spec} {limits : QueryLimits} {filters : FilterSet}
    {request : Request} (hcompile : s.compile limits filters = .ok request) (field : SpecField)
    (hrequires : s.kind.requires field = true) : s.leavesOpen field = false :=
  Bool.eq_false_iff.2 fun hopen => not_lacks_of_compile hcompile ⟨hrequires, hopen⟩

section Drawings

variable {s : Spec} {limits : QueryLimits} {filters : FilterSet} {request : Request}
  (hcompile : s.compile limits filters = .ok request)

include hcompile

/-- Only a table may leave out more than its series column, and compile. -/
theorem sameUse_withoutBlankNames (htable : s.kind ≠ .table)
    (hnamed : ∀ blanks, ¬s.BlankSeries blanks) : s.SameUse s.withoutBlankNames where
  kind := rfl
  valueColumn := by
    have hset : isUnset s.valueColumn = false := not_unset_of_compile hcompile .valueColumn rfl
    exact (withoutBlankName_of_set hset).symm
  groupBy hkpi hhistogram := by
    have hrequires : s.kind.requiresGroupBy = true :=
      (requiresGroupBy_iff s.kind).2 ⟨htable, hkpi, hhistogram⟩
    have hset : isUnset s.groupBy = false := not_unset_of_compile hcompile .groupBy hrequires
    exact (withoutBlankName_of_set hset).symm
  subGroup hseries := by
    have htaken : s.effectiveSubGroup = s.subGroup := if_pos hseries
    have htaken' : s.withoutBlankNames.effectiveSubGroup = s.withoutBlankNames.subGroup :=
      if_pos hseries
    rw [← htaken, ← htaken', effectiveSubGroup_of_named hnamed]
  secondaryValueColumn hdual := by
    have hrequires : s.kind.requires .secondaryValueColumn = true := beq_iff_eq.2 hdual
    have hset : isUnset s.secondaryValueColumn = false :=
      not_unset_of_compile hcompile .secondaryValueColumn hrequires
    exact (withoutBlankName_of_set hset).symm
  aggregation _ := rfl
  order _ _ := rfl
  stacked _ := rfl
  bins _ := rfl
  conditionalColoring _ := rfl

/-- With a series column that has a name, or none, an answer is drawn alike. -/
theorem ofResponse_of_named (hnamed : ∀ blanks, ¬s.BlankSeries blanks) (displayCap : Nat)
    (response : Response) :
    RenderModel.ofResponse displayCap s.kind s response =
      RenderModel.ofResponse displayCap s.kind s.withoutBlankNames response := by
  by_cases htable : s.kind = .table
  · rw [htable]
    rfl
  · exact ofResponse_congr (sameUse_withoutBlankNames hcompile htable hnamed) displayCap response

/-- Blanks in place of the series column are not asked for. -/
theorem request_of_blankSeries {blanks : String} (h : s.BlankSeries blanks) :
    ∃ group a, s.groupBy = some group ∧ Text.isBlankText group = false ∧
      s.withoutBlankNames.groupBy = some group ∧ s.valueKey = some a.key ∧
      s.withoutBlankNames.valueKey = some a.key ∧ request.groupBy = [group] ∧
      request.aggregates = [a] := by
  have hrequires : s.kind.requiresGroupBy = true := requiresGroupBy_of_series h.supportsSubGroup
  have hdual : s.kind ≠ .dualAxis := by
    intro hdual
    have hseries := h.supportsSubGroup
    rw [hdual] at hseries
    cases hseries
  obtain ⟨group, value, hgroup, hvalue, hcolumns, haggregates, -, -⟩ :=
    compile_grouped hrequires hcompile
  obtain ⟨hgroup, hnamed⟩ := presentColumn_eq_ok.1 hgroup
  obtain ⟨hvalue, hvalued⟩ := presentColumn_eq_ok.1 hvalue
  have hplain : writtenColumn? s.effectiveSubGroup = [] := by
    rw [h.1]
    simp [writtenColumn?, h.2]
  have hgroup' : s.withoutBlankNames.groupBy = some group := by
    rw [← hgroup]
    exact withoutBlankName_of_set (by rw [hgroup]; exact hnamed)
  have hvalue' : s.withoutBlankNames.valueColumn = some value := by
    rw [← hvalue]
    exact withoutBlankName_of_set (by rw [hvalue]; exact hvalued)
  refine ⟨group, ⟨value, s.aggregation⟩, hgroup, hnamed, hgroup', valueKey_of_valueColumn hvalue,
    valueKey_of_valueColumn hvalue', ?_, ?_⟩
  · rw [hcolumns, hplain]
  · rcases requestAggregates_eq_ok.1 haggregates with ⟨-, hone⟩ | ⟨hdual', -⟩
    · exact hone
    · exact absurd hdual' hdual

end Drawings

end Spec

namespace RenderModel

/-- The wide row of a category and a value is the plain one, unless both have the same key. -/
theorem wideRow_eq_plainRow (kind : ChartKind) {groupBy key : String} (hapart : groupBy ≠ key)
    {row : Row} (hkeys : ∀ k, k ∈ row.keys ↔ k = groupBy ∨ k = key) :
    wideRow kind groupBy row = plainRow kind groupBy key row := by
  obtain ⟨v, hv⟩ := Ledger.mem_keys_iff.1 ((hkeys key).2 (.inr rfl))
  have hentries : (row.erase groupBy).entries = [(key, v)] := by
    refine Ledger.entries_eq_singleton ?_ fun k hk => ?_
    · rw [← Ledger.get?_eq_some_iff, Ledger.get?_erase, if_neg hapart.symm, hv]
    · obtain ⟨hne, hmem⟩ := Ledger.mem_keys_erase.1 hk
      exact ((hkeys k).1 hmem).resolve_left hne
  have hcells : ((row.entries.filter fun e => e.1 ≠ groupBy).map fun e => (e.1, e.2.asNumber?)) =
      [(key, v.asNumber?)] := by
    change ((row.erase groupBy).entries.map fun e => (e.1, e.2.asNumber?)) = _
    rw [hentries]
    rfl
  unfold wideRow plainRow
  rw [Row.numberAt_of_get? kind hv, hcells]
  rfl

/-- With a series column of which no row has a cell the rows are wide. -/
theorem gridRows_of_lacking {s : Spec} {kind : ChartKind} {groupBy key subGroup : String}
    {rows : List Row} (hseries : s.effectiveSubGroup = some subGroup) (hne : rows ≠ [])
    (hlacks : ∀ row ∈ rows, subGroup ∉ row.keys) :
    gridRows kind s groupBy key rows = rows.mapM (wideRow kind groupBy) := by
  obtain ⟨row, hrow⟩ := List.exists_mem_of_ne_nil rows hne
  have hwide : (rows.all fun row => row.contains subGroup) = false := by
    rw [List.all_eq_false]
    exact ⟨row, hrow, fun hcontains => hlacks row hrow (Ledger.contains_iff.1 hcontains)⟩
  unfold gridRows
  rw [hseries]
  simp only [hwide, Bool.false_eq_true, if_false]

/-- Wide and plain rows of categories and values make the same grid exactly if the values have
another key than the categories, and then the models differ in the stacking alone. -/
theorem gridModel_wide_eq_iff {kind : ChartKind} {s t : Spec} {groupBy key : String}
    {rows : List Row} (hne : rows ≠ [])
    (hkeys : ∀ row ∈ rows, ∀ k, k ∈ row.keys ↔ k = groupBy ∨ k = key)
    {wide plain : List (String × List (String × Option Float))}
    (hwide : rows.mapM (wideRow kind groupBy) = .ok wide)
    (hplain : rows.mapM (plainRow kind groupBy key) = .ok plain) :
    gridModel kind s wide = gridModel kind t plain ↔
      (gridModel kind s wide).stacked = (gridModel kind t plain).stacked ∧ groupBy ≠ key := by
  constructor
  · intro hsame
    refine ⟨by rw [hsame], ?_⟩
    rintro rfl
    have hwides : List.Forall₂ (GridShape.wide.Reads groupBy groupBy) rows wide :=
      (mapM_eq_ok.1 hwide).imp fun _ _ => reads_wideRow
    have hplains : List.Forall₂ (GridShape.plain.Reads groupBy groupBy) rows plain :=
      (mapM_eq_ok.1 hplain).imp fun _ _ => reads_plainRow
    have hseries : (Pivot.ofRows wide).series.keys = (Pivot.ofRows plain).series.keys := by
      rw [← keys_series_gridModel kind s, hsame, keys_series_gridModel]
    -- The plain rows give values for a series, and the wide ones for none.
    obtain ⟨row, hrow⟩ := List.exists_mem_of_ne_nil rows hne
    have hmem : groupBy ∈ (Pivot.ofRows plain).series.keys := by
      rw [series_of_reads hplains, List.mem_eraseDups, List.mem_flatMap]
      exact ⟨row, hrow, List.mem_cons_self⟩
    rw [← hseries, series_of_reads hwides, List.mem_eraseDups, List.mem_flatMap] at hmem
    obtain ⟨other, -, hother⟩ := hmem
    have hapart : groupBy ≠ groupBy := of_decide_eq_true (List.mem_filter.1 hother).2
    exact hapart rfl
  · rintro ⟨hstacked, hapart⟩
    have hrows : rows.mapM (wideRow kind groupBy) = rows.mapM (plainRow kind groupBy key) :=
      mapM_congr fun row hrow => wideRow_eq_plainRow kind hapart (hkeys row hrow)
    rw [hwide, hplain] at hrows
    cases hrows
    exact (CategoricalModel.mk.injEq ..).mpr ⟨rfl, rfl, rfl, hstacked⟩

end RenderModel

namespace Spec

open RenderModel

variable {s : Spec} {limits : QueryLimits} {filters : FilterSet} {request : Request}
  {blanks : String}

/-- With blanks in place of the series column an answer is drawn as without them exactly if it is
empty, or there is nothing to stack and the values have another key than the groups. -/
theorem ofResponse_of_blankSeries_iff (hcompile : s.compile limits filters = .ok request)
    (h : s.BlankSeries blanks) (displayCap : Nat) {response : Response}
    (hcomplete : Table.Complete request response.rows) :
    ofResponse displayCap s.kind s response =
        ofResponse displayCap s.kind s.withoutBlankNames response ↔
      response.rows = [] ∨
        ¬(s.stacked = true ∧ s.kind.supportsStacking = true) ∧ s.groupBy ≠ s.valueKey := by
  by_cases hempty : response.rows = []
  · rw [ofResponse_of_isEmpty displayCap s.kind s hempty,
      ofResponse_of_isEmpty displayCap s.kind s.withoutBlankNames hempty]
    exact iff_of_true rfl (.inl hempty)
  obtain ⟨group, a, hgroup, hnamed, hgroup', hkey, hkey', hcolumns, haggregates⟩ :=
    request_of_blankSeries hcompile h
  have hkeys : ∀ row ∈ response.rows, ∀ k, k ∈ row.keys ↔ k = group ∨ k = a.key := by
    intro row hrow k
    rw [hcomplete row hrow k, hcolumns, haggregates, List.mem_singleton, List.map_singleton,
      List.mem_singleton]
  have hlacks : ∀ row ∈ response.rows, blanks ∉ row.keys := by
    intro row hrow hmem
    have hblank : Text.isBlankText blanks = true := h.2
    rcases (hkeys row hrow blanks).1 hmem with rfl | rfl
    · rw [hnamed] at hblank
      cases hblank
    · rw [a.isBlankText_key] at hblank
      cases hblank
  have hlabel : ∀ row ∈ response.rows, group ∈ row.keys :=
    fun row hrow => (hkeys row hrow group).2 (.inl rfl)
  have hvalue : ∀ row ∈ response.rows, a.key ∈ row.keys :=
    fun row hrow => (hkeys row hrow a.key).2 (.inr rfl)
  obtain ⟨wide, hwide⟩ := gridRows_total s.kind s hvalue hlabel
  obtain ⟨plain, hplain⟩ := gridRows_total s.kind s.withoutBlankNames hvalue hlabel
  have hdrawn : ofResponse displayCap s.kind s response =
      .ok (.categorical (gridModel s.kind s wide)) :=
    (ofResponse_categorical h.supportsSubGroup).2 ⟨hempty, _, _, _, hkey, hgroup, hwide, rfl⟩
  have hdrawn' : ofResponse displayCap s.kind s.withoutBlankNames response =
      .ok (.categorical (gridModel s.kind s.withoutBlankNames plain)) :=
    (ofResponse_categorical h.supportsSubGroup).2 ⟨hempty, _, _, _, hkey', hgroup', hplain, rfl⟩
  rw [gridRows_of_lacking h.1 hempty hlacks] at hwide
  have hplain' : response.rows.mapM (plainRow s.kind group a.key) = .ok plain := by
    unfold gridRows at hplain
    rw [h.effectiveSubGroup_eq] at hplain
    exact hplain
  have hstacked : (gridModel s.kind s wide).stacked = (s.stacked && s.kind.supportsStacking) := by
    change (s.stacked && s.kind.supportsStacking && s.effectiveSubGroup.isSome) = _
    rw [h.1, Option.isSome_some, Bool.and_true]
  have hunstacked : (gridModel s.kind s.withoutBlankNames plain).stacked = false := by
    change (s.stacked && s.kind.supportsStacking &&
      s.withoutBlankNames.effectiveSubGroup.isSome) = _
    rw [h.effectiveSubGroup_eq, Option.isSome_none, Bool.and_false]
  rw [hdrawn, hdrawn', Except.ok.injEq, RenderModel.categorical.injEq, or_iff_right hempty,
    gridModel_wide_eq_iff hempty hkeys hwide hplain', hstacked, hunstacked, hgroup, hkey,
    ← Bool.not_eq_true, Bool.and_eq_true, (Option.some_injective String).ne_iff]

/-- A column name of blanks alone counts as none, but for the series column of bars, lines and
areas. Without such names the same field is missing and the same is asked for, or refused. Bars are
coloured alike unless blanks stand in place of their series column and they are to be coloured.
Validation says the same unless it gets to such blanks and the catalog does not have them as a name.
An answer is drawn alike unless there are such blanks, and also then if it is empty, or there is
nothing to stack and the values have another key than the groups; the answers of tables have the
cells that are asked for. -/
theorem blank_names_ignored_iff (s : Spec) (c : Catalog) (limits : QueryLimits)
    (filters : FilterSet) (displayCap : Nat) :
    s.missingField = s.withoutBlankNames.missingField ∧
    s.compile limits filters = s.withoutBlankNames.compile limits filters ∧
    (s.colorsByMean = s.withoutBlankNames.colorsByMean ↔
      ¬(s.kind = .bar ∧ s.conditionalColoring = true ∧ ∃ blanks, s.BlankSeries blanks)) ∧
    (s.validate c = s.withoutBlankNames.validate c ↔
      ¬(s.ReachesSeries c ∧ ∃ blanks, s.BlankSeries blanks ∧ ¬c.Knows blanks)) ∧
    ∀ request, s.compile limits filters = .ok request →
      ((∀ blanks, ¬s.BlankSeries blanks) → ∀ response,
        ofResponse displayCap s.kind s response =
          ofResponse displayCap s.kind s.withoutBlankNames response) ∧
      ∀ blanks, s.BlankSeries blanks →
        (∀ response, Table.Complete request response.rows →
          (ofResponse displayCap s.kind s response =
              ofResponse displayCap s.kind s.withoutBlankNames response ↔
            response.rows = [] ∨
              ¬(s.stacked = true ∧ s.kind.supportsStacking = true) ∧ s.groupBy ≠ s.valueKey)) ∧
        ∀ (t : Table) response, t.run request = .ok response →
          Table.Complete request response.rows := by
  refine ⟨(missingField_withoutBlankNames s).symm,
    (compile_withoutBlankNames s limits filters).symm, colorsByMean_withoutBlankNames_iff s,
    validate_withoutBlankNames_iff s c, fun request hcompile => ⟨?_, fun blanks h => ⟨?_, ?_⟩⟩⟩
  · exact fun hnamed response => ofResponse_of_named hcompile hnamed displayCap response
  · exact fun response hcomplete =>
      ofResponse_of_blankSeries_iff hcompile h displayCap hcomplete
  · intro t response hrun
    have hrequires : s.kind.requiresGroupBy = true := requiresGroupBy_of_series h.supportsSubGroup
    obtain ⟨group, value, -, -, hcolumns, -, -, hhistogram⟩ := compile_grouped hrequires hcompile
    have hgroup : request.groupBy ≠ [] := by
      rw [hcolumns]
      exact List.cons_ne_nil _ _
    exact Table.complete_of_run hgroup hhistogram hrun

/-- Coloured bars for the sales of each region, with a blank in place of the series column. -/
def blankedBars : Spec where
  groupBy := some "region"
  subGroup := some " "
  valueColumn := some "sales"
  stacked := true
  conditionalColoring := true

/-- The bars with the blank are refused for it, are not coloured, and stack what they draw; without
it they are valid and coloured, and there is nothing to stack. -/
theorem blankedBars_told_apart :
    blankedBars.validate (salesCatalog "region") = .error (.unknownColumn .subGroup " ") ∧
    blankedBars.withoutBlankNames.validate (salesCatalog "region") = .ok () ∧
    blankedBars.colorsByMean = false ∧ blankedBars.withoutBlankNames.colorsByMean = true ∧
    ∃ request, blankedBars.compile {} ∅ = .ok request ∧
      blankedBars.withoutBlankNames.compile {} ∅ = .ok request ∧
      let response : Response :=
        { rows := [Ledger.ofList [("region", .string "East"), ("sales_sum", .int 12)]] }
      Table.Complete request response.rows ∧
      ofResponse 100 .bar blankedBars response ≠
        ofResponse 100 .bar blankedBars.withoutBlankNames response := by
  have hblank : blankedBars.BlankSeries " " := ⟨rfl, by decide⟩
  have hcompile : blankedBars.compile {} ∅ = .ok (blankedBars.groupRequest "sales" ["region"]
      [⟨"sales", .sum⟩] {} ∅) := rfl
  refine ⟨rfl, rfl, rfl, rfl, _, hcompile, rfl, ?_⟩
  intro response
  have hcomplete : Table.Complete (blankedBars.groupRequest "sales" ["region"]
      [⟨"sales", .sum⟩] {} ∅) response.rows := by
    intro row hrow k
    rw [List.mem_singleton.1 hrow, Ledger.mem_keys_ofList]
    exact List.mem_append (s := ["region"]) (t := ["sales_sum"])
  refine ⟨hcomplete, fun hsame => ?_⟩
  rcases (ofResponse_of_blankSeries_iff hcompile hblank 100 hcomplete).1 hsame with hempty | hother
  · cases hempty
  · exact hother.1 ⟨rfl, rfl⟩

end Spec

end Chartboard
