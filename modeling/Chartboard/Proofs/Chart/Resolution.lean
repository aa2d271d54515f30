import Chartboard.Proofs.Query.Compilation

/-!
# Which columns a specification means

Validation looks the columns of a specification up without the blanks around their names, and only
the series column as it is written; a request names all of them as they are written. The two mean
the same columns as long as no name has blanks around it. Where one has, a validated specification
can ask for a column that is not there, and a column that is there can be refused as unknown.
-/

namespace Chartboard

open Outcome

/-! ## Columns of requests -/

/-- The columns that a request groups by or aggregates. -/
def Request.columnNames (r : Request) : List String :=
  r.groupBy ++ r.aggregates.map (·.column)

namespace Spec

/-- The columns that the kind of chart takes, as they are written: the groups, the series, the
values and the second values. -/
def takenColumns (s : Spec) : List String :=
  (if s.kind = .kpi ∨ s.kind = .histogram then [] else writtenColumn? s.groupBy) ++
    writtenColumn? s.effectiveSubGroup ++ writtenColumn? s.valueColumn ++
    (if s.kind = .dualAxis then writtenColumn? s.secondaryValueColumn else [])

/-- A column that is present is written to the request under its name. -/
theorem writtenColumn?_of_present {value : Option String} {field : SpecField} {name : String}
    (h : presentColumn value field = .ok name) : writtenColumn? value = [name] := by
  obtain ⟨rfl, hblank⟩ := presentColumn_eq_ok.1 h
  simp [writtenColumn?, hblank]

/-- A kind of chart that takes no series column has none in effect. -/
theorem effectiveSubGroup_eq_none {s : Spec} (h : s.kind.supportsSubGroup = false) :
    s.effectiveSubGroup = none := by
  unfold effectiveSubGroup
  rw [h]
  rfl

/-- The grouping columns of a request are the groups and the series as they are written. -/
theorem groupColumns_eq {s : Spec} (hkind : s.kind ≠ .histogram) {groupBy : List String}
    (h : s.groupColumns = .ok groupBy) :
    groupBy = (if s.kind = .kpi ∨ s.kind = .histogram then [] else writtenColumn? s.groupBy) ++
      writtenColumn? s.effectiveSubGroup := by
  unfold groupColumns at h
  split at h
  · rename_i hkpi
    cases h
    rw [effectiveSubGroup_eq_none (by rw [hkpi]; rfl), if_pos (Or.inl hkpi)]
    rfl
  · rename_i htable
    cases h
    rw [if_neg (by rw [htable]; decide)]
  · rename_i hkpi _
    obtain ⟨column, hcolumn, hpure⟩ := bind_eq_ok.1 h
    cases hpure
    rw [if_neg (not_or.2 ⟨hkpi, hkind⟩), writtenColumn?_of_present hcolumn]
    rfl

/-- A compiled request names the columns that the kind of chart takes. -/
theorem columnNames_of_compile {s : Spec} {limits : QueryLimits} {filters : FilterSet}
    {request : Request} (h : s.compile limits filters = .ok request) :
    request.columnNames = s.takenColumns := by
  unfold takenColumns
  by_cases hkind : s.kind = .histogram
  · obtain ⟨value, bins, hvalue, -, rfl⟩ := (compile_histogram hkind).1 h
    rw [if_pos (Or.inr hkind), effectiveSubGroup_eq_none (by rw [hkind]; rfl),
      writtenColumn?_of_present hvalue, if_neg (by rw [hkind]; decide)]
    rfl
  · obtain ⟨value, groupBy, aggregates, hvalue, hgroupBy, haggregates, rfl⟩ :=
      (compile_groups hkind).1 h
    rw [← groupColumns_eq hkind hgroupBy, writtenColumn?_of_present hvalue]
    rcases requestAggregates_eq_ok.1 haggregates with ⟨hdual, rfl⟩ | ⟨hdual, second, hsecond, rfl⟩
    · rw [if_neg hdual]
      simp [Request.columnNames, groupRequest]
    · rw [if_pos hdual, writtenColumn?_of_present hsecond]
      simp [Request.columnNames, groupRequest]

/-! ## Columns that validation looks up -/

/-- A catalog with columns knows those that it contains. -/
theorem knows_iff_contains {c : Catalog} (hne : c.isEmpty = false) {name : String} :
    c.Knows name ↔ c.contains name := by
  unfold Catalog.Knows
  simp [hne]

/-- A validated column without blanks around its name is in the catalog as it is written. -/
theorem knows_of_trimmed {c : Catalog} {value : Option String} {name : String}
    (hknown : ∀ found, setColumn? value = some found → c.Knows found)
    (hname : name ∈ writtenColumn? value) (htrim : Text.trim name = name) : c.Knows name := by
  obtain ⟨hvalue, hblank⟩ := mem_writtenColumn?.1 hname
  exact hknown name (setColumn?_eq_some.2 ⟨name, hvalue, htrim, hblank⟩)

/-- Every column that a validated specification takes and that is written without blanks around it
is in the catalog. -/
theorem knows_of_checked {s : Spec} {c : Catalog} (h : s.Checked c) {name : String}
    (hname : name ∈ s.takenColumns) (htrim : Text.trim name = name) : c.Knows name := by
  unfold takenColumns at hname
  simp only [List.mem_append] at hname
  rcases hname with ((hgroup | hsub) | hvalue) | hsecond
  · split at hgroup
    · cases hgroup
    · exact knows_of_trimmed h.groupBy_known hgroup htrim
  · exact h.subGroup_known name (mem_writtenColumn?.1 hsub).1
  · obtain ⟨value, hset, hknown, -⟩ := h.value
    refine knows_of_trimmed (fun found hfound => ?_) hvalue htrim
    rw [hset] at hfound
    cases hfound
    exact hknown
  · split at hsecond
    · rename_i hdual
      obtain ⟨second, hset, hknown, -⟩ := h.secondary hdual
      refine knows_of_trimmed (fun found hfound => ?_) hsecond htrim
      rw [hset] at hfound
      cases hfound
      exact hknown
    · cases hsecond

/-! ## Refused columns -/

/-- The computation is refused for a column that is not in the catalog. -/
def RefusesColumn {α : Type} (x : Except ValidationError α) : Prop :=
  ∃ field name, x = .error (.unknownColumn field name)

/-- A chain of checks refuses a column where its first part does, or else its second one. -/
theorem refusesColumn_bind {α β : Type} {x : Except ValidationError α}
    {f : α → Except ValidationError β} :
    RefusesColumn (x >>= f) ↔ RefusesColumn x ∨ ∃ a, x = .ok a ∧ RefusesColumn (f a) := by
  unfold RefusesColumn
  simp only [bind_eq_error]
  constructor
  · rintro ⟨field, name, hx | ⟨a, ha, hf⟩⟩
    · exact Or.inl ⟨field, name, hx⟩
    · exact Or.inr ⟨a, ha, field, name, hf⟩
  · rintro (⟨field, name, hx⟩ | ⟨a, ha, field, name, hf⟩)
    · exact ⟨field, name, Or.inl hx⟩
    · exact ⟨field, name, Or.inr ⟨a, ha, hf⟩⟩

/-- What has a result refuses no column. -/
theorem not_refusesColumn_ok {α : Type} (a : α) :
    ¬ RefusesColumn (.ok a : Except ValidationError α) := by
  rintro ⟨field, name, h⟩
  cases h

/-- A value by itself refuses no column. -/
theorem not_refusesColumn_pure {α : Type} (a : α) :
    ¬ RefusesColumn (pure a : Except ValidationError α) :=
  not_refusesColumn_ok a

/-- A required column may be missing, but it is not refused as unknown. -/
theorem not_refusesColumn_requiredColumn (value : Option String) (field : SpecField) :
    ¬ RefusesColumn (requiredColumn value field) := by
  simp [RefusesColumn, requiredColumn_eq_error]

/-- A grouping column may be missing here, but it is not refused as unknown. -/
theorem not_refusesColumn_checkedGroupBy (s : Spec) : ¬ RefusesColumn s.checkedGroupBy := by
  unfold checkedGroupBy
  split
  · simp [RefusesColumn, map_eq_error, requiredColumn_eq_error]
  · exact not_refusesColumn_ok _

/-- The lookup of a column refuses it exactly if the catalog does not know it. -/
theorem refusesColumn_checkKnown {c : Catalog} {field : SpecField} {name : String} :
    RefusesColumn (c.checkKnown field name) ↔ ¬ c.Knows name := by
  simp [RefusesColumn, Catalog.checkKnown_eq_error]

/-- A column that may be left out is refused exactly if it is named and not known. -/
theorem refusesColumn_checkOptional {c : Catalog} {field : SpecField} {name : Option String} :
    RefusesColumn (checkOptional c field name) ↔
      ∃ column, name = some column ∧ ¬ c.Knows column := by
  cases name with
  | none => simp [checkOptional, not_refusesColumn_ok]
  | some column => simp [checkOptional, refusesColumn_checkKnown]

/-- The check of a function refuses no column as unknown. -/
theorem not_refusesColumn_checkAggregatable (c : Catalog) (name : String)
    (function : Aggregation) : ¬ RefusesColumn (c.checkAggregatable name function) := by
  simp [RefusesColumn, Catalog.checkAggregatable_eq_error]

/-- The check for bins refuses no column as unknown. -/
theorem not_refusesColumn_checkBinnable (c : Catalog) (name : String) :
    ¬ RefusesColumn (c.checkBinnable name) := by
  simp [RefusesColumn, Catalog.checkBinnable_eq_error]

/-- The check of the number of bins refuses no column as unknown. -/
theorem not_refusesColumn_checkBins (s : Spec) : ¬ RefusesColumn s.checkBins := by
  simp [RefusesColumn, checkBins_eq_error]

/-- The rules about the values refuse a column if it is the value column, or the second one of a
chart of which the first one is in order. -/
theorem refusesColumn_checkValues {s : Spec} {c : Catalog} {value : String} :
    RefusesColumn (s.checkValues c value) ↔ ¬ c.Knows value ∨
      (s.kind = .dualAxis ∧ c.Aggregates value s.aggregation ∧
        ∃ second, setColumn? s.secondaryValueColumn = some second ∧ ¬ c.Knows second) := by
  unfold checkValues
  by_cases hknown : c.Knows value
  · by_cases hdual : s.kind = .dualAxis
    · simp only [hdual, if_true, if_false, reduceCtorEq, refusesColumn_bind, exists_unit,
        refusesColumn_checkKnown, Catalog.checkKnown_eq_ok, hknown, not_true_eq_false, false_or,
        true_and, not_refusesColumn_checkAggregatable, Catalog.checkAggregatable_eq_ok,
        not_refusesColumn_requiredColumn, requiredColumn_eq_ok, and_false, or_false,
        not_refusesColumn_pure]
    · by_cases hhistogram : s.kind = .histogram
      · simp only [hhistogram, if_true, if_false, reduceCtorEq, refusesColumn_bind, exists_unit,
          refusesColumn_checkKnown, hknown, not_true_eq_false, not_refusesColumn_checkBinnable,
          not_refusesColumn_checkBins, and_false, false_and, or_false]
      · simp only [hdual, hhistogram, if_false, refusesColumn_bind, exists_unit,
          refusesColumn_checkKnown, hknown, not_true_eq_false,
          not_refusesColumn_checkAggregatable, not_refusesColumn_pure, and_false, false_and,
          or_false]
  · simp only [refusesColumn_bind, refusesColumn_checkKnown, hknown, not_false_eq_true, true_or]

/-- What validation looks up and does not find, once a value column is set. -/
inductive Misses (s : Spec) (c : Catalog) (value : String) : Prop where
  /-- The grouping column without the blanks around it, whether the chart takes it or not. -/
  | groups (name : String) (set : setColumn? s.groupBy = some name) (lacks : ¬ c.Knows name)
  /-- The series column as it is written. -/
  | series (name : String) (set : s.effectiveSubGroup = some name) (lacks : ¬ c.Knows name)
  /-- The value column without the blanks around it. -/
  | values (lacks : ¬ c.Knows value)
  /-- The second value column without the blanks around it, after the function has been found to
  suit the first one. -/
  | seconds (name : String) (kind : s.kind = .dualAxis)
      (suits : c.Aggregates value s.aggregation)
      (set : setColumn? s.secondaryValueColumn = some name) (lacks : ¬ c.Knows name)

/-- Validation refuses a column exactly if the columns that every chart needs are set and one that
it looks up is missed. -/
theorem refusesColumn_validate {s : Spec} {c : Catalog} :
    RefusesColumn (s.validate c) ↔
      (s.kind.requiresGroupBy → (setColumn? s.groupBy).isSome) ∧
      ∃ value, setColumn? s.valueColumn = some value ∧ s.Misses c value := by
  rw [validate_eq]
  simp only [refusesColumn_bind, not_refusesColumn_checkedGroupBy, false_or, checkedGroupBy_eq_ok,
    not_refusesColumn_requiredColumn, requiredColumn_eq_ok, exists_unit,
    refusesColumn_checkOptional, checkOptional_eq_ok, refusesColumn_checkValues]
  constructor
  · rintro ⟨groupBy, ⟨rfl, hset⟩, value, hvalue, hmiss⟩
    refine ⟨hset, value, hvalue, ?_⟩
    rcases hmiss with ⟨name, hname, hlacks⟩ | ⟨-, ⟨name, hname, hlacks⟩ | ⟨-, hlacks |
      ⟨hdual, hsuits, name, hname, hlacks⟩⟩⟩
    · exact .groups name hname hlacks
    · exact .series name hname hlacks
    · exact .values hlacks
    · exact .seconds name hdual hsuits hname hlacks
  · rintro ⟨hset, value, hvalue, hmiss⟩
    refine ⟨_, ⟨rfl, hset⟩, value, hvalue, ?_⟩
    -- An earlier rule may refuse another column first.
    by_cases hgroup : ∃ name, setColumn? s.groupBy = some name ∧ ¬ c.Knows name
    · exact Or.inl hgroup
    · by_cases hseries : ∃ name, s.effectiveSubGroup = some name ∧ ¬ c.Knows name
      · exact Or.inr ⟨by simpa using hgroup, Or.inl hseries⟩
      · refine Or.inr ⟨by simpa using hgroup, Or.inr ⟨by simpa using hseries, ?_⟩⟩
        cases hmiss with
        | groups name hname hlacks => exact absurd ⟨name, hname, hlacks⟩ hgroup
        | series name hname hlacks => exact absurd ⟨name, hname, hlacks⟩ hseries
        | values hlacks => exact Or.inl hlacks
        | seconds name hdual hsuits hname hlacks =>
          exact Or.inr ⟨hdual, hsuits, name, hname, hlacks⟩

/-! ## Names that are read differently -/

/-- The column is written with blanks around its name, and the catalog does not have the name
without them. -/
def Respelled (c : Catalog) (value : Option String) : Prop :=
  ∃ written, value = some written ∧ Text.isBlankText written = false ∧
    Text.trim written ≠ written ∧ ¬ c.contains (Text.trim written)

/-- Why validation refuses a column although all columns that the chart takes are there. -/
inductive Misreads (s : Spec) (c : Catalog) (value : String) : Prop where
  /-- The grouping column is looked up under another name than its own. -/
  | groups (respelled : Respelled c s.groupBy)
  /-- A grouping column is looked up that the kind of chart does not take. -/
  | unused (name : String) (kind : s.kind = .kpi ∨ s.kind = .histogram)
      (set : setColumn? s.groupBy = some name) (lacks : ¬ c.contains name)
  /-- A series column of blanks alone is looked up as if it were a name. -/
  | series (blanks : String) (set : s.effectiveSubGroup = some blanks)
      (blank : Text.isBlankText blanks) (lacks : ¬ c.contains blanks)
  /-- The value column is looked up under another name than its own. -/
  | values (respelled : Respelled c s.valueColumn)
  /-- The function suits the first value column, and the second one is looked up under another
  name than its own. -/
  | seconds (kind : s.kind = .dualAxis) (suits : c.Aggregates value s.aggregation)
      (respelled : Respelled c s.secondaryValueColumn)

/-- A column that is there as it is written is missed only under another name. -/
theorem respelled_iff {c : Catalog} {value : Option String}
    (h : ∀ name ∈ writtenColumn? value, c.contains name) :
    Respelled c value ↔ ∃ name, setColumn? value = some name ∧ ¬ c.contains name := by
  constructor
  · rintro ⟨written, hvalue, hblank, -, hlacks⟩
    exact ⟨_, setColumn?_eq_some.2 ⟨written, hvalue, rfl, hblank⟩, hlacks⟩
  · rintro ⟨name, hname, hlacks⟩
    obtain ⟨written, hvalue, rfl, hblank⟩ := setColumn?_eq_some.1 hname
    refine ⟨written, hvalue, hblank, fun htrim => hlacks ?_, hlacks⟩
    rw [htrim]
    exact h written (mem_writtenColumn?.2 ⟨hvalue, hblank⟩)

/-- Where all columns that are taken are there as they are written, one is missed exactly if it is
looked up under another name. -/
theorem misses_iff_misreads {s : Spec} {c : Catalog} (hne : c.isEmpty = false)
    (h : ∀ name ∈ s.takenColumns, c.contains name) {value : String}
    (hvalue : setColumn? s.valueColumn = some value) : s.Misses c value ↔ s.Misreads c value := by
  unfold takenColumns at h
  simp only [List.mem_append, or_imp, forall_and] at h
  obtain ⟨⟨⟨hgroups, hseries⟩, hvalues⟩, hseconds⟩ := h
  constructor
  · intro hmiss
    cases hmiss with
    | groups name hset hlacks =>
      rw [knows_iff_contains hne] at hlacks
      by_cases hkind : s.kind = .kpi ∨ s.kind = .histogram
      · exact .unused name hkind hset hlacks
      · rw [if_neg hkind] at hgroups
        exact .groups ((respelled_iff hgroups).2 ⟨name, hset, hlacks⟩)
    | series name hset hlacks =>
      rw [knows_iff_contains hne] at hlacks
      cases hblank : Text.isBlankText name with
      | true => exact .series name hset hblank hlacks
      | false => exact absurd (hseries name (mem_writtenColumn?.2 ⟨hset, hblank⟩)) hlacks
    | values hlacks =>
      rw [knows_iff_contains hne] at hlacks
      exact .values ((respelled_iff hvalues).2 ⟨value, hvalue, hlacks⟩)
    | seconds name hdual hsuits hset hlacks =>
      rw [knows_iff_contains hne] at hlacks
      rw [if_pos hdual] at hseconds
      exact .seconds hdual hsuits ((respelled_iff hseconds).2 ⟨name, hset, hlacks⟩)
  · intro hmisread
    cases hmisread with
    | groups hrespelled =>
      obtain ⟨written, hset, hblank, -, hlacks⟩ := hrespelled
      exact .groups _ (setColumn?_eq_some.2 ⟨written, hset, rfl, hblank⟩)
        (mt (knows_iff_contains hne).1 hlacks)
    | unused name _ hset hlacks => exact .groups name hset (mt (knows_iff_contains hne).1 hlacks)
    | series blanks hset _ hlacks =>
      exact .series blanks hset (mt (knows_iff_contains hne).1 hlacks)
    | values hrespelled =>
      obtain ⟨name, hset, hlacks⟩ := (respelled_iff hvalues).1 hrespelled
      rw [hvalue] at hset
      cases hset
      exact .values (mt (knows_iff_contains hne).1 hlacks)
    | seconds hdual hsuits hrespelled =>
      obtain ⟨written, hset, hblank, -, hlacks⟩ := hrespelled
      exact .seconds _ hdual hsuits (setColumn?_eq_some.2 ⟨written, hset, rfl, hblank⟩)
        (mt (knows_iff_contains hne).1 hlacks)

/-- A validated specification compiles to columns of the catalog exactly if every name that it
takes is written without blanks around it or is a column with them. And if all columns that a
specification takes are in the catalog, it is refused for an unknown column exactly if the columns
that every chart needs are set and validation misreads one of the names. -/
theorem columns_meant_alike {s : Spec} {c : Catalog} (hne : c.isEmpty = false)
    (limits : QueryLimits) (filters : FilterSet) :
    (∀ request, s.validate c = .ok () → s.compile limits filters = .ok request →
      ((∀ name ∈ request.columnNames, c.contains name) ↔
        ∀ name ∈ s.takenColumns, Text.trim name = name ∨ c.contains name)) ∧
    ((∀ name ∈ s.takenColumns, c.contains name) →
      ((∃ field name, s.validate c = .error (.unknownColumn field name)) ↔
        (s.kind.requiresGroupBy → (setColumn? s.groupBy).isSome) ∧
        ∃ value, setColumn? s.valueColumn = some value ∧ s.Misreads c value)) := by
  constructor
  · intro request hvalid hrequest
    have hchecked := validate_eq_ok.1 hvalid
    rw [columnNames_of_compile hrequest]
    constructor
    · intro hnames name hname
      exact Or.inr (hnames name hname)
    · intro hspelled name hname
      rcases hspelled name hname with htrim | hcontains
      · exact (knows_iff_contains hne).1 (knows_of_checked hchecked hname htrim)
      · exact hcontains
  · intro hthere
    have hrefused := @refusesColumn_validate s c
    unfold RefusesColumn at hrefused
    rw [hrefused]
    constructor
    · rintro ⟨hset, value, hvalue, hmiss⟩
      exact ⟨hset, value, hvalue, (misses_iff_misreads hne hthere hvalue).1 hmiss⟩
    · rintro ⟨hset, value, hvalue, hmisread⟩
      exact ⟨hset, value, hvalue, (misses_iff_misreads hne hthere hvalue).2 hmisread⟩

/-- Bars for the sales of each region, with blanks around the name of the grouping column. -/
def spacedBars : Spec where
  groupBy := some " region "
  valueColumn := some "sales"

/-- The columns of some sales, the first of them under a given name. -/
def salesCatalog (region : String) : Catalog where
  columns := [⟨region, .string⟩, ⟨"sales", .float64⟩]

/-- The blanks around the grouping column make validation and the request mean different columns. -/
theorem columns_meant_alike_spacedBars :
    (salesCatalog "region").isEmpty = false ∧
    (∀ request, spacedBars.validate (salesCatalog "region") = .ok () →
      spacedBars.compile {} ∅ = .ok request →
      ((∀ name ∈ request.columnNames, (salesCatalog "region").contains name) ↔
        ∀ name ∈ spacedBars.takenColumns,
          Text.trim name = name ∨ (salesCatalog "region").contains name)) ∧
    ((∀ name ∈ spacedBars.takenColumns, (salesCatalog "region").contains name) →
      ((∃ field name, spacedBars.validate (salesCatalog "region") =
          .error (.unknownColumn field name)) ↔
        (spacedBars.kind.requiresGroupBy → (setColumn? spacedBars.groupBy).isSome) ∧
        ∃ value, setColumn? spacedBars.valueColumn = some value ∧
          spacedBars.Misreads (salesCatalog "region") value)) :=
  ⟨rfl, columns_meant_alike rfl {} ∅⟩

/-- With blanks around its name a column that is there is refused, and where the name without them
is there the specification is valid and asks for a column that is not. -/
theorem spacedBars_misread :
    ((∀ name ∈ spacedBars.takenColumns, (salesCatalog " region ").contains name) ∧
      spacedBars.validate (salesCatalog " region ") =
        .error (.unknownColumn .groupBy "region")) ∧
    spacedBars.validate (salesCatalog "region") = .ok () ∧
    ∃ request, spacedBars.compile {} ∅ = .ok request ∧ " region " ∈ request.columnNames ∧
      (salesCatalog "region").contains " region " = false := by
  refine ⟨⟨by decide +kernel, rfl⟩, rfl, _, rfl, by decide +kernel, by decide +kernel⟩

end Spec

end Chartboard
