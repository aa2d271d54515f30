import Chartboard.Chart.Validation
import Chartboard.Proofs.Outcome
import Chartboard.Proofs.Text.Trimming

/-!
# What validation guarantees

Validation goes through its rules one after the other. It accepts a specification exactly when all
of them hold together, and which ones these are is said here in one place.
-/

namespace Chartboard

open Outcome

namespace Catalog

/-- The catalog does not deny that a column exists. -/
def Knows (c : Catalog) (name : String) : Prop :=
  c.isEmpty ∨ c.contains name

/-- The catalog does not deny that a function suits a column. -/
def Aggregates (c : Catalog) (name : String) (function : Aggregation) : Prop :=
  ∀ dtype, c.dtypeOf name = some dtype → function.requiresNumeric → dtype.isNumeric

/-- The catalog does not deny that a column can be binned. -/
def Bins (c : Catalog) (name : String) : Prop :=
  ∀ dtype, c.dtypeOf name = some dtype → dtype.isNumeric

/-- The lookup of a column is passed exactly if the catalog knows it. -/
theorem checkKnown_eq_ok {c : Catalog} {field : SpecField} {name : String} :
    c.checkKnown field name = .ok () ↔ c.Knows name := by
  unfold checkKnown Knows
  rw [← Bool.or_eq_true]
  split
  · rename_i h
    simp [h]
  · rename_i h
    simp [h]

/-- A function is let through exactly if the catalog allows it for the column. -/
theorem checkAggregatable_eq_ok {c : Catalog} {name : String} {function : Aggregation} :
    c.checkAggregatable name function = .ok () ↔ c.Aggregates name function := by
  unfold checkAggregatable Aggregates
  cases c.dtypeOf name with
  | none => simp
  | some dtype =>
    cases hnumeric : dtype.isNumeric with
    | true => simp [hnumeric]
    | false =>
      cases hrequires : function.requiresNumeric with
      | true => simp [hnumeric]
      | false => simp

/-- A column is let through exactly if it can be binned. -/
theorem checkBinnable_eq_ok {c : Catalog} {name : String} :
    c.checkBinnable name = .ok () ↔ c.Bins name := by
  unfold checkBinnable Bins
  cases c.dtypeOf name with
  | none => simp
  | some dtype =>
    cases hnumeric : dtype.isNumeric with
    | true => simp [hnumeric]
    | false => simp [hnumeric]

/-- The lookup of a column blames it exactly if the catalog does not know it. -/
theorem checkKnown_eq_error {c : Catalog} {field : SpecField} {name : String}
    {e : ValidationError} :
    c.checkKnown field name = .error e ↔ ¬ c.Knows name ∧ e = .unknownColumn field name := by
  rw [← @checkKnown_eq_ok c field]
  unfold checkKnown
  split
  · simp
  · simp [eq_comm]

/-- A function is blamed exactly if the catalog does not allow it for the column. -/
theorem checkAggregatable_eq_error {c : Catalog} {name : String} {function : Aggregation}
    {e : ValidationError} :
    c.checkAggregatable name function = .error e ↔
      ¬ c.Aggregates name function ∧ e = .incompatibleAggregation name function := by
  rw [← checkAggregatable_eq_ok]
  unfold checkAggregatable
  split
  · split
    · simp [eq_comm]
    · simp
  · simp

/-- A column is blamed exactly if it cannot be binned. -/
theorem checkBinnable_eq_error {c : Catalog} {name : String} {e : ValidationError} :
    c.checkBinnable name = .error e ↔ ¬ c.Bins name ∧ e = .notBinnable name := by
  rw [← checkBinnable_eq_ok]
  unfold checkBinnable
  split
  · split
    · simp
    · simp [eq_comm]
  · simp

end Catalog

namespace Spec

/-- A required column is missed exactly if its field is unset. -/
theorem requiredColumn_eq_error {value : Option String} {field : SpecField}
    {e : ValidationError} :
    requiredColumn value field = .error e ↔ setColumn? value = none ∧ e = .missingField field := by
  unfold requiredColumn
  cases setColumn? value with
  | none => simp [eq_comm]
  | some column => simp

/-- A number of bins is missed, or it is out of bounds. -/
theorem checkBins_eq_error {s : Spec} {e : ValidationError} :
    s.checkBins = .error e ↔ s.bins = none ∧ e = .missingField .bins ∨
      ∃ bins, s.bins = some bins ∧ ¬(minBins ≤ bins ∧ bins ≤ maxBins) ∧
        e = .invalidBinCount bins := by
  unfold checkBins
  cases s.bins with
  | none => simp [eq_comm]
  | some bins =>
    by_cases h : minBins ≤ bins ∧ bins ≤ maxBins
    · simp [h, -not_and]
    · simp [h, -not_and, eq_comm]

/-- A required column is the one that is set. -/
theorem requiredColumn_eq_ok {value : Option String} {field : SpecField} {name : String} :
    requiredColumn value field = .ok name ↔ setColumn? value = some name := by
  unfold requiredColumn
  cases setColumn? value with
  | none => simp
  | some column => simp

/-- A number of bins is let through exactly if it is within the bounds. -/
theorem checkBins_eq_ok {s : Spec} :
    s.checkBins = .ok () ↔ ∃ bins, s.bins = some bins ∧ minBins ≤ bins ∧ bins ≤ maxBins := by
  unfold checkBins
  cases s.bins with
  | none => simp
  | some bins =>
    by_cases h : minBins ≤ bins ∧ bins ≤ maxBins
    · simp [h]
    · simp [h]

/-- All that validation asks of a specification. -/
structure Checked (s : Spec) (c : Catalog) : Prop where
  /-- A chart with an axis of groups has a grouping column. -/
  groupBy_set : s.kind.requiresGroupBy → (setColumn? s.groupBy).isSome
  /-- The grouping column exists. -/
  groupBy_known : ∀ name, setColumn? s.groupBy = some name → c.Knows name
  /-- The series column exists, blanks around it included. -/
  subGroup_known : ∀ name, s.effectiveSubGroup = some name → c.Knows name
  /-- The value column is set and exists, and it can be binned or suits the function. -/
  value : ∃ name, setColumn? s.valueColumn = some name ∧ c.Knows name ∧
    if s.kind = .histogram then c.Bins name else c.Aggregates name s.aggregation
  /-- A chart with two axes has a second value column that exists and suits the function. -/
  secondary : s.kind = .dualAxis → ∃ name, setColumn? s.secondaryValueColumn = some name ∧
    c.Knows name ∧ c.Aggregates name s.aggregation
  /-- A histogram has a number of bins within bounds. -/
  bins : s.kind = .histogram → ∃ n, s.bins = some n ∧ minBins ≤ n ∧ n ≤ maxBins

/-- The rules about the values and the bins. -/
def checkValues (s : Spec) (c : Catalog) (value : String) : Except ValidationError Unit := do
  c.checkKnown .valueColumn value
  if s.kind = .histogram then c.checkBinnable value
  else c.checkAggregatable value s.aggregation
  if s.kind = .dualAxis then
    let secondary ← requiredColumn s.secondaryValueColumn .secondaryValueColumn
    c.checkKnown .secondaryValueColumn secondary
    c.checkAggregatable secondary s.aggregation
  if s.kind = .histogram then s.checkBins

/-- The rule about a column that need not be set. -/
def checkOptional (c : Catalog) (field : SpecField) (name : Option String) :
    Except ValidationError Unit :=
  match name with
  | some column => c.checkKnown field column
  | none => .ok ()

/-- A column that may be left out is looked up only if it is named. -/
theorem checkOptional_eq_ok {c : Catalog} {field : SpecField} {name : Option String} :
    checkOptional c field name = .ok () ↔ ∀ column, name = some column → c.Knows column := by
  cases name with
  | none => simp [checkOptional]
  | some column => simp [checkOptional, Catalog.checkKnown_eq_ok]

/-- The value columns pass if they are known and suit the kind of chart and the function. -/
theorem checkValues_eq_ok {s : Spec} {c : Catalog} {value : String} :
    s.checkValues c value = .ok () ↔
      c.Knows value ∧
      (if s.kind = .histogram then c.Bins value else c.Aggregates value s.aggregation) ∧
      (s.kind = .dualAxis → ∃ name, setColumn? s.secondaryValueColumn = some name ∧
        c.Knows name ∧ c.Aggregates name s.aggregation) ∧
      (s.kind = .histogram → ∃ n, s.bins = some n ∧ minBins ≤ n ∧ n ≤ maxBins) := by
  unfold checkValues
  by_cases hdual : s.kind = .dualAxis
  · simp only [hdual, if_true, if_false, reduceCtorEq, bind_eq_ok, exists_unit,
      Catalog.checkKnown_eq_ok, Catalog.checkAggregatable_eq_ok, requiredColumn_eq_ok, pure_eq_ok,
      forall_const, false_implies, and_true]
  · by_cases hhistogram : s.kind = .histogram
    · simp only [hhistogram, if_true, if_false, reduceCtorEq, bind_eq_ok, exists_unit,
        Catalog.checkKnown_eq_ok, Catalog.checkBinnable_eq_ok, checkBins_eq_ok, forall_const,
        false_implies, true_and]
    · simp only [hdual, hhistogram, if_false, bind_eq_ok, exists_unit, Catalog.checkKnown_eq_ok,
        Catalog.checkAggregatable_eq_ok, pure_eq_ok, false_implies, and_true]

/-- The grouping column that validation goes on with. -/
def checkedGroupBy (s : Spec) : Except ValidationError (Option String) :=
  if s.kind.requiresGroupBy then some <$> requiredColumn s.groupBy .groupBy
  else pure (setColumn? s.groupBy)

/-- The grouping column may be left out only where the kind of chart does not require it. -/
theorem checkedGroupBy_eq_ok {s : Spec} {groupBy : Option String} :
    s.checkedGroupBy = .ok groupBy ↔
      setColumn? s.groupBy = groupBy ∧ (s.kind.requiresGroupBy → groupBy.isSome) := by
  unfold checkedGroupBy
  by_cases hrequires : s.kind.requiresGroupBy
  · rw [if_pos hrequires, map_eq_ok]
    simp only [requiredColumn_eq_ok, hrequires, true_implies]
    constructor
    · rintro ⟨name, hset, rfl⟩
      exact ⟨hset, rfl⟩
    · rintro ⟨hset, hsome⟩
      obtain ⟨name, rfl⟩ := Option.isSome_iff_exists.1 hsome
      exact ⟨name, hset, rfl⟩
  · rw [if_neg hrequires, pure_eq_ok]
    simp [hrequires]

/-- Validation without its nesting. -/
theorem validate_eq (s : Spec) (c : Catalog) :
    s.validate c = (do
      let groupBy ← s.checkedGroupBy
      let value ← requiredColumn s.valueColumn .valueColumn
      checkOptional c .groupBy groupBy
      checkOptional c .subGroup s.effectiveSubGroup
      s.checkValues c value) := by
  unfold validate
  by_cases hrequires : s.kind.requiresGroupBy
  · simp only [checkedGroupBy, hrequires, if_true]
    congr 1
    funext groupBy
    congr 1
    funext value
    cases groupBy with
    | none => cases s.effectiveSubGroup <;> rfl
    | some name => cases s.effectiveSubGroup <;> rfl
  · simp only [checkedGroupBy, hrequires, Bool.false_eq_true, if_false]
    congr 1
    funext groupBy
    congr 1
    funext value
    cases groupBy with
    | none => cases s.effectiveSubGroup <;> rfl
    | some name => cases s.effectiveSubGroup <;> rfl

/-- Validation accepts exactly the specifications of which all its rules hold. -/
theorem validate_eq_ok {s : Spec} {c : Catalog} : s.validate c = .ok () ↔ s.Checked c := by
  rw [validate_eq, bind_eq_ok]
  simp only [checkedGroupBy_eq_ok, bind_eq_ok, exists_unit, requiredColumn_eq_ok,
    checkOptional_eq_ok, checkValues_eq_ok]
  constructor
  · rintro ⟨groupBy, ⟨rfl, hset⟩, value, hvalue, hgroup, hsub, hknown, hsuits, hsecondary, hbins⟩
    exact ⟨hset, hgroup, hsub, ⟨value, hvalue, hknown, hsuits⟩, hsecondary, hbins⟩
  · rintro ⟨hset, hgroup, hsub, ⟨value, hvalue, hknown, hsuits⟩, hsecondary, hbins⟩
    exact ⟨_, ⟨rfl, hset⟩, value, hvalue, hgroup, hsub, hknown, hsuits, hsecondary, hbins⟩

end Spec

end Chartboard
