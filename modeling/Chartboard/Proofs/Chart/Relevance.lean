import Chartboard.Proofs.Chart.Resolution
import Chartboard.Proofs.Render.Reading

/-!
# Fields that a chart does not take

Two specifications that agree on the fields that their kind takes compile to the same request and
draw the same model. They are validated alike as well, but for the grouping column of a figure or a
histogram: the kind does not take it, and validation looks it up all the same.
-/

namespace Chartboard

open Outcome

namespace Spec

/-- Two specifications are of one kind and agree on every field that this kind takes. -/
structure SameUse (s t : Spec) : Prop where
  /-- The kinds are the same. -/
  kind : s.kind = t.kind
  /-- Every chart takes a value column. -/
  valueColumn : s.valueColumn = t.valueColumn
  /-- All but figures and histograms take a grouping column. -/
  groupBy : s.kind ≠ .kpi → s.kind ≠ .histogram → s.groupBy = t.groupBy
  /-- Bars, lines and areas take a series column. -/
  subGroup : s.kind.supportsSubGroup → s.subGroup = t.subGroup
  /-- Two axes take a second value column. -/
  secondaryValueColumn : s.kind = .dualAxis → s.secondaryValueColumn = t.secondaryValueColumn
  /-- All but histograms, which count, take a function. -/
  aggregation : s.kind ≠ .histogram → s.aggregation = t.aggregation
  /-- All but figures and histograms take the direction of a sort. -/
  order : s.kind ≠ .kpi → s.kind ≠ .histogram → s.sort.map (·.order) = t.sort.map (·.order)
  /-- Bars and areas can be stacked. -/
  stacked : s.kind.supportsStacking → s.stacked = t.stacked
  /-- Histograms take a number of bins. -/
  bins : s.kind = .histogram → s.bins = t.bins
  /-- Bars can be coloured. -/
  conditionalColoring : s.kind = .bar → s.conditionalColoring = t.conditionalColoring

section SameUse

variable {s t : Spec} (h : s.SameUse t)

include h

/-! ## Derived fields -/

/-- The series column in effect depends on fields that are used alone. -/
theorem effectiveSubGroup_congr : s.effectiveSubGroup = t.effectiveSubGroup := by
  unfold effectiveSubGroup
  rw [← h.kind]
  split
  · rename_i hseries
    exact h.subGroup hseries
  · rfl

/-- The key of the values depends on fields that are used alone. -/
theorem valueKey_congr (hkind : s.kind ≠ .histogram) : s.valueKey = t.valueKey := by
  unfold valueKey
  rw [h.valueColumn, h.aggregation hkind]

/-- The key of the second values depends on fields that are used alone. -/
theorem secondaryKey_congr : s.secondaryKey = t.secondaryKey := by
  unfold secondaryKey
  rw [← h.kind]
  split
  · rename_i hdual
    rw [h.secondaryValueColumn hdual, h.aggregation (by rw [hdual]; decide)]
  · rfl

/-- Whether a chart is coloured depends on fields that are used alone. -/
theorem colorsByMean_congr : s.colorsByMean = t.colorsByMean := by
  unfold colorsByMean
  rw [← h.kind, effectiveSubGroup_congr h]
  by_cases hbar : s.kind = .bar
  · rw [h.conditionalColoring hbar]
  · rw [beq_eq_false_iff_ne.2 hbar, Bool.and_false, Bool.and_false]

/-! ## Requests -/

/-- The grouping columns of the request depend on fields that are used alone. -/
theorem groupColumns_congr (hkind : s.kind ≠ .histogram) : s.groupColumns = t.groupColumns := by
  unfold groupColumns
  rw [← h.kind, effectiveSubGroup_congr h]
  split
  · rfl
  · rename_i htable
    rw [h.groupBy (by rw [htable]; decide) hkind]
  · rename_i hkpi _
    rw [h.groupBy hkpi hkind]

/-- The aggregates of the request depend on fields that are used alone. -/
theorem requestAggregates_congr (hkind : s.kind ≠ .histogram) (value : String) :
    s.requestAggregates value = t.requestAggregates value := by
  unfold requestAggregates
  rw [← h.kind, h.aggregation hkind]
  split
  · rename_i hdual
    rw [h.secondaryValueColumn hdual]
  · rfl

/-- The sort of the request depends on fields that are used alone. -/
theorem requestSort_congr (hkind : s.kind ≠ .histogram) (value : String) :
    s.requestSort value = t.requestSort value := by
  unfold requestSort
  rw [← h.kind, h.aggregation hkind]
  by_cases hkpi : s.kind = .kpi
  · rw [hkpi]
  · have horder := h.order hkpi hkind
    cases hs : s.sort with
    | none =>
      rw [hs, Option.map_none, eq_comm, Option.map_eq_none_iff] at horder
      rw [horder]
    | some sorting =>
      rw [hs, Option.map_some, eq_comm, Option.map_eq_some_iff] at horder
      obtain ⟨sorting', ht, hsame⟩ := horder
      rw [ht]
      cases s.kind <;> simp [hsame]

/-- Specifications that agree on what they take compile to the same request. -/
theorem compile_congr (limits : QueryLimits) (filters : FilterSet) :
    s.compile limits filters = t.compile limits filters := by
  unfold compile
  rw [h.valueColumn, ← h.kind]
  by_cases hkind : s.kind = .histogram
  · simp only [hkind, if_true, h.bins hkind]
  · simp only [hkind, if_false, groupColumns_congr h hkind, requestAggregates_congr h hkind,
      requestSort_congr h hkind]

/-! ## Models -/

/-- A chart of their kind reads the same of specifications that agree on what they take. -/
theorem readsAlike_of_sameUse : s.ReadsAlike s.kind t where
  valueColumn _ := h.valueColumn
  valueKey hkind := valueKey_congr h hkind
  groupBy := h.groupBy
  series _ _ _ := effectiveSubGroup_congr h
  stacked := h.stacked
  secondaryKey _ _ := secondaryKey_congr h

/-- Specifications that agree on what they take draw a response alike. -/
theorem ofResponse_congr (displayCap : Nat) (response : Response) :
    RenderModel.ofResponse displayCap s.kind s response =
      RenderModel.ofResponse displayCap t.kind t response := by
  rw [← h.kind]
  exact RenderModel.ofResponse_alike (readsAlike_of_sameUse h) displayCap response

/-! ## Validation -/

/-- The checks of the value columns depend on fields that are used alone. -/
theorem checkValues_congr (c : Catalog) (value : String) :
    s.checkValues c value = t.checkValues c value := by
  unfold checkValues checkBins
  rw [← h.kind]
  by_cases hhistogram : s.kind = .histogram
  · simp only [hhistogram, if_true, if_false, reduceCtorEq, h.bins hhistogram]
  · by_cases hdual : s.kind = .dualAxis
    · simp only [hdual, if_true, if_false, reduceCtorEq, h.aggregation hhistogram,
        h.secondaryValueColumn hdual]
    · simp only [hdual, hhistogram, if_false, h.aggregation hhistogram]

/-- With the same grouping column they are validated alike. -/
theorem validate_congr (hgroup : s.groupBy = t.groupBy) (c : Catalog) :
    s.validate c = t.validate c := by
  rw [validate_eq, validate_eq]
  unfold checkedGroupBy
  simp only [h.kind, hgroup, h.valueColumn, effectiveSubGroup_congr h, checkValues_congr h]

end SameUse

/-- The grouping column that validation looks up in vain, whether the chart takes it or not. -/
def strayGroup? (s : Spec) (c : Catalog) : Option String :=
  (setColumn? s.groupBy).filter fun name => !(c.isEmpty || c.contains name)

/-- The grouping column is blamed exactly if it is one that strays. -/
theorem checkOptional_setGroup (s : Spec) (c : Catalog) :
    checkOptional c .groupBy (setColumn? s.groupBy) =
      match s.strayGroup? c with
      | some name => .error (.unknownColumn .groupBy name)
      | none => .ok () := by
  unfold strayGroup? checkOptional Catalog.checkKnown
  cases setColumn? s.groupBy with
  | none => rfl
  | some name =>
    cases hknown : c.isEmpty || c.contains name with
    | true => simp only [Option.filter_some, hknown, Bool.not_true, Bool.false_eq_true, if_true,
        if_false]
    | false => simp only [Option.filter_some, hknown, Bool.not_false, Bool.false_eq_true, if_true,
        if_false]

/-- The rules about the values are never broken by the grouping columns. -/
theorem field_of_checkValues {s : Spec} {c : Catalog} {value : String} {e : ValidationError}
    (h : s.checkValues c value = .error e) : e.field ≠ .groupBy ∧ e.field ≠ .subGroup := by
  unfold checkValues at h
  by_cases hdual : s.kind = .dualAxis
  · simp only [hdual, if_true, if_false, reduceCtorEq, bind_eq_error, exists_unit,
      Catalog.checkKnown_eq_error, Catalog.checkAggregatable_eq_error, requiredColumn_eq_error,
      pure, Except.pure, and_false, or_false] at h
    rcases h with ⟨-, rfl⟩ | ⟨-, ⟨-, rfl⟩ | ⟨-, ⟨-, rfl⟩ | ⟨_, -, ⟨-, rfl⟩ | ⟨-, -, rfl⟩⟩⟩⟩
    all_goals simp [ValidationError.field]
  · by_cases hhistogram : s.kind = .histogram
    · simp only [hhistogram, if_true, if_false, reduceCtorEq, bind_eq_error, exists_unit,
        Catalog.checkKnown_eq_error, Catalog.checkBinnable_eq_error, checkBins_eq_error] at h
      rcases h with ⟨-, rfl⟩ | ⟨-, ⟨-, rfl⟩ | ⟨-, ⟨-, rfl⟩ | ⟨_, -, -, rfl⟩⟩⟩
      all_goals simp [ValidationError.field]
    · simp only [hdual, hhistogram, if_false, reduceCtorEq, bind_eq_error, exists_unit,
        Catalog.checkKnown_eq_error, Catalog.checkAggregatable_eq_error, pure, Except.pure,
        and_false, or_false] at h
      rcases h with ⟨-, rfl⟩ | ⟨-, -, rfl⟩
      all_goals simp [ValidationError.field]

section Groupless

variable {s t : Spec} (hkind : s.kind = .kpi ∨ s.kind = .histogram)

include hkind

/-- A kind of chart without groups looks a grouping column up all the same, after it has found its
value column. -/
theorem validate_eq_of_groupless (c : Catalog) :
    s.validate c = (do
      let value ← requiredColumn s.valueColumn .valueColumn
      checkOptional c .groupBy (setColumn? s.groupBy)
      s.checkValues c value) := by
  have hrequires : s.kind.requiresGroupBy = false := by
    rcases hkind with hkind | hkind <;> rw [hkind] <;> rfl
  have hseries : s.effectiveSubGroup = none := by
    refine effectiveSubGroup_eq_none ?_
    rcases hkind with hkind | hkind <;> rw [hkind] <;> rfl
  have hgroup : s.checkedGroupBy = .ok (setColumn? s.groupBy) := by
    unfold checkedGroupBy
    rw [hrequires]
    rfl
  rw [validate_eq, hgroup, hseries]
  rfl

/-- A figure or a histogram without a value column is refused before its grouping column is looked
up. -/
theorem validate_of_valueless (hvalue : setColumn? s.valueColumn = none) (c : Catalog) :
    s.validate c = .error (.missingField .valueColumn) := by
  have hmissing : requiredColumn s.valueColumn .valueColumn =
      .error (.missingField .valueColumn) := by
    unfold requiredColumn
    rw [hvalue]
  rw [validate_eq_of_groupless hkind, hmissing]
  rfl

/-- The grouping column of a figure or a histogram is looked up before its values are checked. -/
theorem validate_of_groupless {value : String} (hvalue : setColumn? s.valueColumn = some value)
    (c : Catalog) :
    s.validate c =
      match s.strayGroup? c with
      | some name => .error (.unknownColumn .groupBy name)
      | none => s.checkValues c value := by
  rw [validate_eq_of_groupless hkind, requiredColumn_eq_ok.2 hvalue, checkOptional_setGroup]
  cases s.strayGroup? c with
  | none => rfl
  | some name => rfl

/-- Two figures or histograms that agree on what they take are validated alike exactly if no value
column is set or the same grouping column is looked up in vain. -/
theorem validate_eq_iff_of_groupless (h : s.SameUse t) (c : Catalog) :
    s.validate c = t.validate c ↔
      ((setColumn? s.valueColumn).isSome → s.strayGroup? c = t.strayGroup? c) := by
  have hkind' : t.kind = .kpi ∨ t.kind = .histogram := h.kind ▸ hkind
  cases hvalue : setColumn? s.valueColumn with
  | none =>
    have hvalue' : setColumn? t.valueColumn = none := by rw [← h.valueColumn, hvalue]
    rw [validate_of_valueless hkind hvalue, validate_of_valueless hkind' hvalue']
    exact ⟨fun _ hsome => absurd hsome Bool.false_ne_true, fun _ => rfl⟩
  | some value =>
    have hvalue' : setColumn? t.valueColumn = some value := by rw [← h.valueColumn, hvalue]
    have hother : ∀ name, s.checkValues c value ≠ .error (.unknownColumn .groupBy name) :=
      fun name herror => (field_of_checkValues herror).1 rfl
    rw [validate_of_groupless hkind hvalue, validate_of_groupless hkind' hvalue',
      ← checkValues_congr h]
    cases s.strayGroup? c with
    | none =>
      cases t.strayGroup? c with
      | none => simp
      | some name => simpa using hother name
    | some name =>
      cases t.strayGroup? c with
      | none => simpa using (hother name).symm
      | some name' => simp

end Groupless

/-- Two specifications of one kind that agree on the fields that the kind takes compile to the same
request or fail alike, draw the same model for every response or fail alike, and are validated
alike. Only figures and histograms of which a value column is set also depend on a field that they
do not take: they are validated alike exactly if the same grouping column is looked up in vain. -/
theorem unused_fields_ignored {s t : Spec} (h : s.SameUse t) (c : Catalog) (limits : QueryLimits)
    (filters : FilterSet) (displayCap : Nat) (response : Response) :
    (s.validate c = t.validate c ↔
      (s.kind = .kpi ∨ s.kind = .histogram → (setColumn? s.valueColumn).isSome →
        s.strayGroup? c = t.strayGroup? c)) ∧
    s.compile limits filters = t.compile limits filters ∧
    (RenderModel.colorize s.colorsByMean <$>
        RenderModel.ofResponse displayCap s.kind s response) =
      (RenderModel.colorize t.colorsByMean <$>
        RenderModel.ofResponse displayCap t.kind t response) := by
  refine ⟨?_, compile_congr h limits filters, ?_⟩
  · by_cases hkind : s.kind = .kpi ∨ s.kind = .histogram
    · rw [validate_eq_iff_of_groupless hkind h]
      exact ⟨fun hstray _ => hstray, fun hstray => hstray hkind⟩
    · obtain ⟨hkpi, hhistogram⟩ := not_or.1 hkind
      have hvalidate := validate_congr h (h.groupBy hkpi hhistogram) c
      exact ⟨fun _ hgroupless => absurd hgroupless hkind, fun _ => hvalidate⟩
  · rw [colorsByMean_congr h, ofResponse_congr h]

/-- The total of the sales. -/
def salesFigure : Spec where
  kind := .kpi
  valueColumn := some "sales"

/-- The same figure after it has been bars for each region, stacked by shop. -/
def formerBars : Spec where
  kind := .kpi
  groupBy := some "region"
  subGroup := some "shop"
  valueColumn := some "sales"
  sort := some { order := .desc }
  stacked := true

/-- The figure and the former bars use the same fields alike. -/
theorem salesFigure_sameUse_formerBars : salesFigure.SameUse formerBars where
  kind := rfl
  valueColumn := rfl
  groupBy hkpi _ := absurd rfl hkpi
  subGroup := nofun
  secondaryValueColumn := nofun
  aggregation _ := rfl
  order hkpi _ := absurd rfl hkpi
  stacked := nofun
  bins := nofun
  conditionalColoring := nofun

/-- The figure and the former bars ask and draw the same, and are validated alike exactly where the
former grouping column is not looked up in vain. -/
theorem unused_fields_ignored_salesFigure :
    salesFigure.SameUse formerBars ∧
    (salesFigure.validate ⟨[⟨"sales", .float64⟩, ⟨"region", .string⟩]⟩ =
        formerBars.validate ⟨[⟨"sales", .float64⟩, ⟨"region", .string⟩]⟩ ↔
      (salesFigure.kind = .kpi ∨ salesFigure.kind = .histogram →
        (setColumn? salesFigure.valueColumn).isSome →
        salesFigure.strayGroup? ⟨[⟨"sales", .float64⟩, ⟨"region", .string⟩]⟩ =
          formerBars.strayGroup? ⟨[⟨"sales", .float64⟩, ⟨"region", .string⟩]⟩)) ∧
    salesFigure.compile {} ∅ = formerBars.compile {} ∅ ∧
    (RenderModel.colorize salesFigure.colorsByMean <$>
        RenderModel.ofResponse 100 .kpi salesFigure
          { rows := [Ledger.ofList [("sales_sum", .int 12)]] }) =
      (RenderModel.colorize formerBars.colorsByMean <$>
        RenderModel.ofResponse 100 .kpi formerBars
          { rows := [Ledger.ofList [("sales_sum", .int 12)]] }) :=
  ⟨salesFigure_sameUse_formerBars,
    unused_fields_ignored salesFigure_sameUse_formerBars _ {} ∅ 100 _⟩

/-- Without the former grouping column in the catalog the former bars are refused for it, and the
figure is valid. -/
theorem formerBars_refused :
    salesFigure.SameUse formerBars ∧
    salesFigure.validate ⟨[⟨"sales", .float64⟩]⟩ = .ok () ∧
    formerBars.validate ⟨[⟨"sales", .float64⟩]⟩ = .error (.unknownColumn .groupBy "region") :=
  ⟨salesFigure_sameUse_formerBars, rfl, rfl⟩

end Spec

end Chartboard
