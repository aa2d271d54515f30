import Chartboard.Proofs.Query.Compilation
import Chartboard.Proofs.View.History

/-!
# Required fields

A kind of chart requires some fields. Validation, compilation and the specification itself each look
for one that is unset, in an order of their own. They agree on whether there is one: nothing is
missed of a specification that is complete, and a chart that has one does not wait for more.
-/

namespace Chartboard

open Outcome

/-- The kind of chart cannot be drawn without the field. -/
def ChartKind.requires (kind : ChartKind) : SpecField → Bool
  | .groupBy => kind.requiresGroupBy
  | .valueColumn => true
  | .secondaryValueColumn => kind == .dualAxis
  | .bins => kind == .histogram
  | _ => false

namespace Spec

/-- The field is unset, or nothing but blanks are in it. -/
def leavesOpen (s : Spec) : SpecField → Bool
  | .groupBy => isUnset s.groupBy
  | .subGroup => isUnset s.subGroup
  | .valueColumn => isUnset s.valueColumn
  | .secondaryValueColumn => isUnset s.secondaryValueColumn
  | .sort => s.sort.isNone
  | .bins => s.bins.isNone
  | .kind | .aggregation | .stacked | .conditionalColoring => false

/-- The kind of chart requires the field, and it is unset. -/
def Lacks (s : Spec) (field : SpecField) : Prop :=
  s.kind.requires field ∧ s.leavesOpen field

instance (s : Spec) (field : SpecField) : Decidable (s.Lacks field) :=
  inferInstanceAs (Decidable (_ ∧ _))

variable {s : Spec} {c : Catalog} {field : SpecField}

/-! ## Unset fields -/

/-- No column is set exactly if the field counts as unset. -/
theorem setColumn?_eq_none {value : Option String} : setColumn? value = none ↔ isUnset value := by
  rw [← Option.not_isSome_iff_eq_none, Option.isSome_iff_exists]
  simp only [setColumn?_eq_some]
  cases value with
  | none => simp [isUnset]
  | some written => simp [isUnset]

/-- A column is missed exactly if its field counts as unset. -/
theorem presentColumn_eq_error {value : Option String} {field : SpecField} {e : ValidationError} :
    presentColumn value field = .error e ↔ isUnset value ∧ e = .missingField field := by
  cases value with
  | none => simp [presentColumn, isUnset, eq_comm]
  | some written =>
    cases hblank : Text.isBlankText written with
    | true => simp [presentColumn, isUnset, hblank, eq_comm]
    | false => simp [presentColumn, isUnset, hblank]

/-! ## Missing fields -/

/-- The fields that are required of some kind of chart, in the order in which a specification looks
for one that is unset. -/
def requirable : List SpecField :=
  [.groupBy, .valueColumn, .secondaryValueColumn, .bins]

/-- Whatever a kind of chart requires is among the fields that are looked through. -/
theorem mem_requirable {kind : ChartKind} (h : kind.requires field) : field ∈ requirable := by
  cases field with
  | groupBy | valueColumn | secondaryValueColumn | bins => decide
  | _ => cases h

/-- The test for a lacking field asks for the kind of chart and for the field. -/
theorem decide_lacks : decide (s.Lacks field) = (s.kind.requires field && s.leavesOpen field) :=
  Bool.eq_iff_iff.2 (decide_eq_true_iff.trans Bool.and_eq_true_iff.symm)

/-- The missing field is the first one that is lacked. -/
theorem missingField_eq (s : Spec) :
    s.missingField = requirable.find? fun field => s.Lacks field := by
  unfold missingField requirable
  simp only [List.find?_cons, decide_lacks, ChartKind.requires, leavesOpen, Bool.true_and,
    List.find?_nil]
  cases s.kind.requiresGroupBy && isUnset s.groupBy with
  | true => rfl
  | false =>
    cases isUnset s.valueColumn with
    | true => rfl
    | false =>
      cases s.kind == .dualAxis && isUnset s.secondaryValueColumn with
      | true => rfl
      | false =>
        cases s.kind == .histogram && s.bins.isNone with
        | true => rfl
        | false => rfl

/-- A field that is named as missing is lacking. -/
theorem lacks_of_missingField (h : s.missingField = some field) : s.Lacks field := by
  rw [missingField_eq] at h
  have hlacks := List.find?_some h
  exact of_decide_eq_true hlacks

/-- A specification without a missing field lacks none. -/
theorem missingField_eq_none : s.missingField = none ↔ ∀ field, ¬ s.Lacks field := by
  rw [missingField_eq, List.find?_eq_none]
  constructor
  · intro h field hlacks
    exact h field (mem_requirable hlacks.1) (decide_eq_true hlacks)
  · intro h field _ hlacks
    exact h field (of_decide_eq_true hlacks)

/-- A grouping column that is lacked is missed before anything else. -/
theorem missingField_of_groupBy (h : s.Lacks .groupBy) : s.missingField = some .groupBy := by
  rw [missingField_eq]
  exact List.find?_cons_of_pos (decide_eq_true h)

/-- The value column is named as missing once the grouping column is there. -/
theorem missingField_of_valueColumn (hgroup : ¬ s.Lacks .groupBy) (h : s.Lacks .valueColumn) :
    s.missingField = some .valueColumn := by
  rw [missingField_eq, requirable, List.find?_cons_of_neg (by simpa using hgroup)]
  exact List.find?_cons_of_pos (decide_eq_true h)

/-- No kind of chart has both two axes and bins, so behind the grouping column and the value column
at most one field is lacked. -/
theorem missingField_of_lacks (hgroup : ¬ s.Lacks .groupBy) (hvalue : ¬ s.Lacks .valueColumn)
    (h : s.Lacks field) : s.missingField = some field := by
  rw [missingField_eq, requirable, List.find?_cons_of_neg (by simpa using hgroup),
    List.find?_cons_of_neg (by simpa using hvalue)]
  cases field with
  | groupBy => exact absurd h hgroup
  | valueColumn => exact absurd h hvalue
  | secondaryValueColumn => exact List.find?_cons_of_pos (decide_eq_true h)
  | bins =>
    have hkind : s.kind = .histogram := beq_iff_eq.1 h.1
    have hsecondary : ¬ s.Lacks .secondaryValueColumn := by
      rintro ⟨hdual, -⟩
      rw [hkind] at hdual
      cases hdual
    rw [List.find?_cons_of_neg (by simpa using hsecondary)]
    exact List.find?_cons_of_pos (decide_eq_true h)
  | _ => cases h.1

/-! ## Compilation -/

/-- The grouping columns of a request fail for a grouping column that is lacking. -/
theorem groupColumns_eq_error (hkind : s.kind ≠ .histogram) {e : ValidationError}
    (h : s.groupColumns = .error e) : e = .missingField .groupBy ∧ s.Lacks .groupBy := by
  unfold groupColumns at h
  split at h
  · cases h
  · cases h
  · next hkpi htable =>
    rcases bind_eq_error.1 h with hgroup | ⟨column, -, hpure⟩
    · obtain ⟨hopen, rfl⟩ := presentColumn_eq_error.1 hgroup
      exact ⟨rfl, (requiresGroupBy_iff s.kind).2 ⟨htable, hkpi, hkind⟩, hopen⟩
    · cases hpure

/-- The aggregates of a request fail for a second value column that is lacking. -/
theorem requestAggregates_eq_error {value : String} {e : ValidationError}
    (h : s.requestAggregates value = .error e) :
    e = .missingField .secondaryValueColumn ∧ s.Lacks .secondaryValueColumn := by
  unfold requestAggregates at h
  split at h
  · next hdual =>
    rcases bind_eq_error.1 h with hsecondary | ⟨secondary, -, hpure⟩
    · obtain ⟨hopen, rfl⟩ := presentColumn_eq_error.1 hsecondary
      exact ⟨rfl, beq_iff_eq.2 hdual, hopen⟩
    · cases hpure
  · cases h

/-- Compilation fails only for a field that is lacked. -/
theorem lacks_of_compile_error {limits : QueryLimits} {filters : FilterSet} {e : ValidationError}
    (h : s.compile limits filters = .error e) :
    ∃ field, e = .missingField field ∧ s.Lacks field := by
  rcases bind_eq_error.1 h with hvalue | ⟨value, -, h⟩
  · obtain ⟨hopen, rfl⟩ := presentColumn_eq_error.1 hvalue
    exact ⟨.valueColumn, rfl, rfl, hopen⟩
  · split at h
    · next hhistogram =>
      split at h
      · next hbins =>
        cases h
        exact ⟨.bins, rfl, beq_iff_eq.2 hhistogram, Option.isNone_iff_eq_none.2 hbins⟩
      · cases h
    · next hkind =>
      rcases bind_eq_error.1 h with hgroup | ⟨groupBy, -, h⟩
      · exact ⟨.groupBy, groupColumns_eq_error hkind hgroup⟩
      · rcases bind_eq_error.1 h with haggregates | ⟨aggregates, -, hpure⟩
        · exact ⟨.secondaryValueColumn, requestAggregates_eq_error haggregates⟩
        · cases hpure

/-- A column that is present does not count as unset. -/
theorem not_isUnset_of_present {value : Option String} {field : SpecField} {name : String}
    (h : presentColumn value field = .ok name) : ¬ isUnset value := by
  intro hunset
  rw [presentColumn_eq_error.2 ⟨hunset, rfl⟩] at h
  cases h

/-- What is compiled lacks nothing. -/
theorem not_lacks_of_compile {limits : QueryLimits} {filters : FilterSet} {request : Request}
    (h : s.compile limits filters = .ok request) : ¬ s.Lacks field := by
  rintro ⟨hrequires, hopen⟩
  obtain ⟨value, hvalue, -⟩ := bind_eq_ok.1 h
  cases field with
  | groupBy =>
    obtain ⟨groupBy, -, hgroup, -⟩ := compile_grouped hrequires h
    exact not_isUnset_of_present hgroup hopen
  | valueColumn => exact not_isUnset_of_present hvalue hopen
  | secondaryValueColumn =>
    have hdual : s.kind = .dualAxis := beq_iff_eq.1 hrequires
    obtain ⟨value, groupBy, aggregates, -, -, haggregates, -⟩ :=
      (compile_groups (by rw [hdual]; decide)).1 h
    rcases requestAggregates_eq_ok.1 haggregates with ⟨hnot, -⟩ | ⟨-, secondary, hsecondary, -⟩
    · exact hnot hdual
    · exact not_isUnset_of_present hsecondary hopen
  | bins =>
    obtain ⟨-, bins, -, hbins, -⟩ := (compile_histogram (beq_iff_eq.1 hrequires)).1 h
    rw [leavesOpen, hbins] at hopen
    cases hopen
  | _ => cases hrequires

/-- Compilation succeeds exactly for the complete specifications. -/
theorem compile_isOk_iff (limits : QueryLimits) (filters : FilterSet) :
    (∃ request, s.compile limits filters = .ok request) ↔ s.missingField = none := by
  rw [missingField_eq_none]
  constructor
  · rintro ⟨request, hcompiled⟩ field
    exact not_lacks_of_compile hcompiled
  · intro hcomplete
    cases hcompiled : s.compile limits filters with
    | ok request => exact ⟨request, rfl⟩
    | error e =>
      obtain ⟨field, -, hlacks⟩ := lacks_of_compile_error hcompiled
      exact absurd hlacks (hcomplete field)

/-! ## Validation -/

/-- A required column is missed exactly if its field counts as unset. -/
theorem requiredColumn_eq_error_iff {value : Option String} {required : SpecField}
    {e : ValidationError} :
    requiredColumn value required = .error e ↔ isUnset value ∧ e = .missingField required := by
  rw [requiredColumn_eq_error, setColumn?_eq_none]

/-- The check of the grouping column fails exactly if the column is lacking. -/
theorem checkedGroupBy_eq_error {e : ValidationError} :
    s.checkedGroupBy = .error e ↔ s.Lacks .groupBy ∧ e = .missingField .groupBy := by
  unfold checkedGroupBy Lacks
  cases hrequires : s.kind.requiresGroupBy with
  | true =>
    rw [if_pos rfl, map_eq_error, requiredColumn_eq_error_iff]
    simp [ChartKind.requires, leavesOpen, hrequires]
  | false => simp [ChartKind.requires, hrequires, pure, Except.pure]

/-- What the rules about the values miss is lacked. -/
theorem lacks_of_checkValues {value : String}
    (h : s.checkValues c value = .error (.missingField field)) : s.Lacks field := by
  unfold checkValues at h
  by_cases hdual : s.kind = .dualAxis
  · simp only [hdual, if_true, if_false, reduceCtorEq, bind_eq_error, exists_unit,
      Catalog.checkKnown_eq_error, Catalog.checkAggregatable_eq_error,
      requiredColumn_eq_error_iff, pure, Except.pure, and_false, or_false, false_or,
      exists_false, ValidationError.missingField.injEq] at h
    obtain ⟨-, -, hopen, rfl⟩ := h
    exact ⟨beq_iff_eq.2 hdual, hopen⟩
  · by_cases hhistogram : s.kind = .histogram
    · simp only [hhistogram, if_true, if_false, reduceCtorEq, bind_eq_error, exists_unit,
        Catalog.checkKnown_eq_error, Catalog.checkBinnable_eq_error, checkBins_eq_error, and_false,
        or_false, false_or, exists_false, ValidationError.missingField.injEq] at h
      obtain ⟨-, -, hopen, rfl⟩ := h
      exact ⟨beq_iff_eq.2 hhistogram, Option.isNone_iff_eq_none.2 hopen⟩
    · simp only [hdual, hhistogram, if_false, reduceCtorEq, bind_eq_error, exists_unit,
        Catalog.checkKnown_eq_error, Catalog.checkAggregatable_eq_error, pure, Except.pure,
        and_false, or_false] at h

/-- A column that may be left out is never named as missing. -/
theorem checkOptional_ne_missing {required : SpecField} {name : Option String} :
    checkOptional c required name ≠ .error (.missingField field) := by
  intro h
  cases name with
  | none => cases h
  | some column => cases (Catalog.checkKnown_eq_error.1 h).2

/-- What validation names as missing is the first lacking field. -/
theorem missingField_of_validate (h : s.validate c = .error (.missingField field)) :
    s.missingField = some field := by
  rw [validate_eq] at h
  rcases bind_eq_error.1 h with hgroup | ⟨groupBy, hgroup, h⟩
  · obtain ⟨hlacks, hfield⟩ := checkedGroupBy_eq_error.1 hgroup
    cases hfield
    exact missingField_of_groupBy hlacks
  · have hgrouped : ¬ s.Lacks .groupBy := by
      intro hlacks
      rw [checkedGroupBy_eq_error.2 ⟨hlacks, rfl⟩] at hgroup
      cases hgroup
    rcases bind_eq_error.1 h with hvalue | ⟨value, hvalue, h⟩
    · obtain ⟨hopen, hfield⟩ := requiredColumn_eq_error_iff.1 hvalue
      cases hfield
      exact missingField_of_valueColumn hgrouped ⟨rfl, hopen⟩
    · have hvalued : ¬ s.Lacks .valueColumn := by
        rintro ⟨-, hopen⟩
        rw [requiredColumn_eq_error_iff.2 ⟨hopen, rfl⟩] at hvalue
        cases hvalue
      rcases bind_eq_error.1 h with hknown | ⟨-, -, h⟩
      · exact absurd hknown checkOptional_ne_missing
      · rcases bind_eq_error.1 h with hknown | ⟨-, -, hvalues⟩
        · exact absurd hknown checkOptional_ne_missing
        · exact missingField_of_lacks hgrouped hvalued (lacks_of_checkValues hvalues)

end Spec

/-! ## Nothing known of the columns -/

namespace Catalog

/-- The empty catalog knows every column. -/
theorem knows_empty (name : String) : ({} : Catalog).Knows name :=
  .inl rfl

/-- The empty catalog allows every function. -/
theorem aggregates_empty (name : String) (function : Aggregation) :
    ({} : Catalog).Aggregates name function :=
  fun _ h => nomatch h

/-- By the empty catalog every column can be binned. -/
theorem bins_empty (name : String) : ({} : Catalog).Bins name :=
  fun _ h => nomatch h

end Catalog

namespace Spec

variable {s : Spec} {field : SpecField}

/-- The empty catalog lets every column through. -/
theorem checkOptional_empty (required : SpecField) (name : Option String) :
    checkOptional {} required name = .ok () :=
  checkOptional_eq_ok.2 fun column _ => Catalog.knows_empty column

/-- If nothing is known of the columns, no rule stands before the fields that are required behind
the value column. -/
theorem checkValues_empty {value : String} (hgroup : ¬ s.Lacks .groupBy)
    (hvalue : ¬ s.Lacks .valueColumn) (h : s.Lacks field) :
    s.checkValues {} value = .error (.missingField field) := by
  have hknown (required : SpecField) (name : String) :
      ({} : Catalog).checkKnown required name = .ok () :=
    Catalog.checkKnown_eq_ok.2 (Catalog.knows_empty name)
  cases field with
  | groupBy => exact absurd h hgroup
  | valueColumn => exact absurd h hvalue
  | secondaryValueColumn =>
    have hkind : s.kind = .dualAxis := beq_iff_eq.1 h.1
    have hsuits := Catalog.checkAggregatable_eq_ok.2 (Catalog.aggregates_empty value s.aggregation)
    have hmissing := requiredColumn_eq_error_iff.2
      ⟨h.2, rfl (a := ValidationError.missingField .secondaryValueColumn)⟩
    unfold checkValues
    rw [hknown, hkind, if_neg (by decide), hsuits, if_pos rfl, hmissing]
    rfl
  | bins =>
    have hkind : s.kind = .histogram := beq_iff_eq.1 h.1
    have hsuits := Catalog.checkBinnable_eq_ok.2 (Catalog.bins_empty value)
    have hmissing : s.checkBins = .error (.missingField .bins) :=
      checkBins_eq_error.2 (.inl ⟨Option.isNone_iff_eq_none.1 h.2, rfl⟩)
    unfold checkValues
    rw [hknown, hkind, if_pos rfl, hsuits, if_neg (by decide), if_pos rfl, hmissing]
    rfl
  | _ => cases h.1

/-- If nothing is known of the columns, validation finds the missing field. -/
theorem validate_empty (h : s.missingField = some field) :
    s.validate {} = .error (.missingField field) := by
  rw [validate_eq]
  by_cases hgroup : s.Lacks .groupBy
  · cases (missingField_of_groupBy hgroup).symm.trans h
    rw [checkedGroupBy_eq_error.2 ⟨hgroup, rfl⟩]
    rfl
  · obtain ⟨groupBy, hgrouped⟩ : ∃ groupBy, s.checkedGroupBy = .ok groupBy := by
      cases hchecked : s.checkedGroupBy with
      | ok groupBy => exact ⟨groupBy, rfl⟩
      | error e => exact absurd (checkedGroupBy_eq_error.1 hchecked).1 hgroup
    rw [hgrouped]
    by_cases hvalue : s.Lacks .valueColumn
    · cases (missingField_of_valueColumn hgroup hvalue).symm.trans h
      show requiredColumn s.valueColumn .valueColumn >>= _ = _
      rw [requiredColumn_eq_error_iff.2 ⟨hvalue.2, rfl⟩]
      rfl
    · obtain ⟨value, hvalued⟩ : ∃ value, requiredColumn s.valueColumn .valueColumn = .ok value := by
        cases hrequired : requiredColumn s.valueColumn .valueColumn with
        | ok value => exact ⟨value, rfl⟩
        | error e => exact absurd ⟨rfl, (requiredColumn_eq_error_iff.1 hrequired).1⟩ hvalue
      show requiredColumn s.valueColumn .valueColumn >>= _ = _
      rw [hvalued]
      show checkOptional {} .groupBy groupBy >>= _ = _
      rw [checkOptional_empty]
      show checkOptional {} .subGroup s.effectiveSubGroup >>= _ = _
      rw [checkOptional_empty]
      exact checkValues_empty hgroup hvalue (lacks_of_missingField h)

end Spec

namespace ChartView

/-- The query of a chart with a complete specification does not fail for a missing field. -/
theorem nextRequest_ne_missing {v : ChartView} (h : v.spec.missingField = none)
    {field : SpecField} : v.nextRequest ≠ .error (.missingField field) := by
  intro hrequest
  rcases bind_eq_error.1 hrequest with hinvalid | ⟨-, -, hcompile⟩
  · rw [Spec.missingField_of_validate hinvalid] at h
    cases h
  · obtain ⟨other, -, hlacks⟩ := Spec.lacks_of_compile_error hcompile
    exact Spec.missingField_eq_none.1 h other hlacks

/-- A poll leaves a chart waiting only for a field that is missed. -/
theorem phase_poll (v : ChartView) (h : v.spec.missingField = none) :
    v.poll.state.phase ≠ .stale := by
  unfold poll
  cases hrefusal : v.refusal? with
  | some refusal =>
    rw [whenLive_of_refusal hrefusal]
    intro hstale
    rw [refusal?, show v.phase = .stale from hstale] at hrefusal
    cases hrefusal
  | none =>
    rw [whenLive_of_live hrefusal]
    cases hawaits : v.awaitsQuery with
    | false =>
      intro hstale
      rw [awaitsQuery, show v.phase = .stale from hstale] at hawaits
      cases hawaits
    | true =>
      cases hrequest : v.nextRequest with
      | ok request => exact fun hstale => nomatch hstale
      | error e =>
        -- An incomplete specification is the only error that leaves the chart waiting.
        cases e with
        | missingField field => exact absurd hrequest (nextRequest_ne_missing h)
        | _ => exact fun hstale => nomatch hstale

end ChartView

/-- The specification, the validation against an empty catalog and the compilation agree on whether
a required field is unset, and the specification and the validation on which. Against any catalog
nothing else is said to be missing, so no poll leaves a chart with a complete specification
waiting. -/
theorem Spec.missing_agrees (s : Spec) :
    (∀ field, s.missingField = some field ↔ s.validate {} = .error (.missingField field)) ∧
      (∀ limits filters,
        ((∃ request, s.compile limits filters = .ok request) ↔ s.missingField = none) ∧
          (s.missingField ≠ none →
            ∃ field, s.compile limits filters = .error (.missingField field) ∧ s.Lacks field)) ∧
      (∀ c field, s.validate c = .error (.missingField field) → s.missingField = some field) ∧
      ∀ v : ChartView, v.spec = s → s.missingField = none → v.poll.state.phase ≠ .stale := by
  refine ⟨fun field => ⟨validate_empty, missingField_of_validate⟩, ?_,
    fun c field => missingField_of_validate, ?_⟩
  · intro limits filters
    have hcompiles := compile_isOk_iff (s := s) limits filters
    refine ⟨hcompiles, fun hmissing => ?_⟩
    cases hcompiled : s.compile limits filters with
    | ok request => exact absurd (hcompiles.1 ⟨request, hcompiled⟩) hmissing
    | error e =>
      obtain ⟨field, rfl, hlacks⟩ := lacks_of_compile_error hcompiled
      exact ⟨field, rfl, hlacks⟩
  · rintro v rfl
    exact v.phase_poll

/-- A histogram without bins is not compiled. -/
theorem Spec.missing_agrees_binless :
    ∃ field, Spec.compile { kind := .histogram, valueColumn := some "price" } {} ∅ =
      .error (.missingField field) ∧
        Spec.Lacks { kind := .histogram, valueColumn := some "price" } field :=
  ((Spec.missing_agrees { kind := .histogram, valueColumn := some "price" }).2.1 {} ∅).2
    (by decide)

end Chartboard
