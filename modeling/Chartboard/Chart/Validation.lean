import Chartboard.Chart.Catalog
import Chartboard.Chart.Spec

/-!
# Validation

A specification is checked against a catalog in a fixed order, and the first rule that fails is
the answer: required columns are set, columns exist, functions suit the columns, a chart with two
axes has both, and a histogram has from two to a hundred bins. An empty catalog says nothing about
which columns exist.
-/

namespace Chartboard

/-- Why a specification cannot be drawn. -/
inductive ValidationError where
  /-- A required field is unset. -/
  | missingField (field : SpecField)
  /-- The function needs numbers and the column has none. -/
  | incompatibleAggregation (column : String) (aggregation : Aggregation)
  /-- The column of a histogram has no numbers. -/
  | notBinnable (column : String)
  /-- The number of bins is out of bounds. -/
  | invalidBinCount (bins : Nat)
  /-- The column is not in the catalog. -/
  | unknownColumn (field : SpecField) (column : String)
  deriving DecidableEq, Repr

namespace ValidationError

/-- The message for the user. -/
def message : ValidationError → String
  | missingField field => s!"choose a value for '{field.name}'"
  | incompatibleAggregation column aggregation =>
    s!"'{aggregation.name}' cannot be applied to non-numeric column '{column}'; " ++
      "use 'count' instead"
  | notBinnable column => s!"column '{column}' is not numeric and cannot be binned"
  | invalidBinCount bins => s!"histogram bins must be between 2 and 100, got {bins}"
  | unknownColumn field column =>
    s!"column '{column}' used in '{field.name}' does not exist in the dataset"

/-- The field that the user has to change. -/
def field : ValidationError → SpecField
  | missingField field => field
  | incompatibleAggregation _ _ => .aggregation
  | notBinnable _ => .valueColumn
  | invalidBinCount _ => .bins
  | unknownColumn field _ => field

/-- The specification is still being filled in. -/
def isIncomplete : ValidationError → Bool
  | missingField _ => true
  | _ => false

end ValidationError

/-- The least number of bins of a histogram. -/
def minBins : Nat := 2

/-- The greatest number of bins of a histogram. -/
def maxBins : Nat := 100

namespace Spec

/-- A column field without the blanks around it, or nothing if only blanks are there. -/
def setColumn? (value : Option String) : Option String :=
  match value.map Text.trim with
  | some "" => none
  | other => other

/-- A column field that must be set. -/
def requiredColumn (value : Option String) (field : SpecField) :
    Except ValidationError String :=
  match setColumn? value with
  | some column => .ok column
  | none => .error (.missingField field)

end Spec

namespace Catalog

/-- The column exists, as far as the catalog says. -/
def checkKnown (c : Catalog) (field : SpecField) (column : String) : Except ValidationError Unit :=
  if c.isEmpty || c.contains column then .ok () else .error (.unknownColumn field column)

/-- The function suits the column, as far as the catalog says. -/
def checkAggregatable (c : Catalog) (column : String) (aggregation : Aggregation) :
    Except ValidationError Unit :=
  match c.dtypeOf column with
  | some dtype =>
    if !dtype.isNumeric && aggregation.requiresNumeric then
      .error (.incompatibleAggregation column aggregation)
    else .ok ()
  | none => .ok ()

/-- The column can be binned, as far as the catalog says. -/
def checkBinnable (c : Catalog) (column : String) : Except ValidationError Unit :=
  match c.dtypeOf column with
  | some dtype => if dtype.isNumeric then .ok () else .error (.notBinnable column)
  | none => .ok ()

end Catalog

namespace Spec

/-- The number of bins is set and within bounds. -/
def checkBins (s : Spec) : Except ValidationError Unit :=
  match s.bins with
  | none => .error (.missingField .bins)
  | some bins =>
    if minBins ≤ bins ∧ bins ≤ maxBins then .ok () else .error (.invalidBinCount bins)

/-- Checks a specification against a catalog. -/
def validate (s : Spec) (catalog : Catalog) : Except ValidationError Unit := do
  let groupBy ←
    if s.kind.requiresGroupBy then some <$> requiredColumn s.groupBy .groupBy
    else pure (setColumn? s.groupBy)
  let value ← requiredColumn s.valueColumn .valueColumn
  if let some column := groupBy then
    catalog.checkKnown .groupBy column
  if let some column := s.effectiveSubGroup then
    catalog.checkKnown .subGroup column
  catalog.checkKnown .valueColumn value
  if s.kind = .histogram then catalog.checkBinnable value
  else catalog.checkAggregatable value s.aggregation
  if s.kind = .dualAxis then
    let secondary ← requiredColumn s.secondaryValueColumn .secondaryValueColumn
    catalog.checkKnown .secondaryValueColumn secondary
    catalog.checkAggregatable secondary s.aggregation
  if s.kind = .histogram then s.checkBins

end Spec

end Chartboard
