import Chartboard.Proofs.Outcome
import Chartboard.Query.Execute

/-!
# Selected rows

Which rows a query counts depends on the table and the filters alone. A column that is not there
fails the query, and otherwise the filters keep the rows that agree with every one of them.
-/

namespace Chartboard.Table

open Json (Value)
open Outcome

/-! ## Columns by name -/

/-- Looking up a name among numbered columns finds the type of the first column of that name. -/
theorem lookup_refs (columns : List Column) (start : Nat) (name : String) :
    (((columns.zipIdx start).map fun (c, i) => (c.name, (⟨i, c.type⟩ : ColumnRef))).lookup name
      |>.map (·.type)) = (columns.find? (·.name == name)).map (·.type) := by
  induction columns generalizing start with
  | nil => rfl
  | cons c rest ih =>
    rw [List.zipIdx_cons, List.map_cons, List.lookup_cons, List.find?_cons]
    by_cases h : c.name = name
    · simp [h]
    · have hn : name ≠ c.name := fun he => h he.symm
      simp only [beq_eq_false_iff_ne.2 h, beq_eq_false_iff_ne.2 hn]
      exact ih (start + 1)

/-- A name is read as the type of its first column. -/
theorem column?_type (t : Table) (name : String) :
    (t.column? name).map (·.type) = (t.columns.find? (·.name == name)).map (·.type) :=
  lookup_refs t.columns 0 name

/-- The catalog knows a column by the type under which queries find it. -/
theorem catalog_dtypeOf (t : Table) (name : String) :
    t.catalog.dtypeOf name = (t.column? name).map (·.type.dtype) := by
  have hcatalog : t.catalog.dtypeOf name =
      ((t.columns.find? (·.name == name)).map (·.type)).map StorageType.dtype := by
    unfold Catalog.dtypeOf Catalog.get? catalog
    rw [List.find?_map, Option.map_map, Option.map_map]
    rfl
  rw [hcatalog, ← column?_type, Option.map_map]
  rfl

/-- A name is found exactly where it is that of a column. -/
theorem column?_isSome_iff {t : Table} {name : String} :
    (t.column? name).isSome ↔ name ∈ t.names := by
  have htype := congrArg Option.isSome (t.column?_type name)
  rw [Option.isSome_map, Option.isSome_map] at htype
  rw [htype, List.find?_isSome]
  unfold names
  rw [List.mem_map]
  simp only [beq_iff_eq]

/-- The catalog has exactly the columns of the table. -/
theorem catalog_contains_iff {t : Table} {name : String} :
    t.catalog.contains name ↔ name ∈ t.names := by
  rw [← column?_isSome_iff]
  have htype := congrArg Option.isSome (t.catalog_dtypeOf name)
  unfold Catalog.dtypeOf at htype
  rw [Option.isSome_map, Option.isSome_map] at htype
  unfold Catalog.contains
  rw [htype]

/-- The lookup that may fail finds the same columns. -/
theorem column_eq_ok {t : Table} {name : String} {ref : ColumnRef} :
    t.column name = .ok ref ↔ t.column? name = some ref := by
  unfold column
  cases t.column? name with
  | none => simp
  | some r => simp

/-- The name of a column is found. -/
theorem column_total {t : Table} {name : String} (h : name ∈ t.names) :
    ∃ ref, t.column name = .ok ref := by
  obtain ⟨ref, href⟩ := Option.isSome_iff_exists.1 (column?_isSome_iff.2 h)
  exact ⟨ref, column_eq_ok.2 href⟩

/-- What is found has the name of a column. -/
theorem mem_names_of_column {t : Table} {name : String} {ref : ColumnRef}
    (h : t.column name = .ok ref) : name ∈ t.names :=
  column?_isSome_iff.1 (Option.isSome_iff_exists.2 ⟨ref, column_eq_ok.1 h⟩)

/-! ## Cells by the names of their columns -/

/-- The value in a row under the name of a column, null where there is no such column. -/
def readAt (t : Table) (name : String) (record : Record) : Value :=
  ((t.column? name).map fun ref => ref.read record).getD .null

/-- Reading under a name is reading the column that it finds. -/
theorem readAt_of_column? {t : Table} {name : String} {ref : ColumnRef}
    (h : t.column? name = some ref) : t.readAt name = ref.read := by
  funext record
  unfold readAt
  rw [h]
  rfl

/-- A column that is found reads what its name reads. -/
theorem readAt_eq {t : Table} {name : String} {ref : ColumnRef} (h : t.column name = .ok ref)
    (record : Record) : ref.read record = t.readAt name record := by
  rw [readAt_of_column? (column_eq_ok.1 h)]

/-! ## Filters -/

/-- The row agrees with every filter on a column that is there. -/
def agrees (t : Table) (filters : List Filter) (record : Record) : Bool :=
  filters.all fun f => (t.column? f.column).all fun ref =>
    (ref.read record).matchesFilter f.value

/-- The rows that agree with every filter, in their order. -/
def selection (t : Table) (filters : List Filter) : List Record :=
  t.records.filter (t.agrees filters)

/-- The selected records are records of the table. -/
theorem mem_records_of_selection {t : Table} {filters : List Filter} {r : Record}
    (h : r ∈ t.selection filters) : r ∈ t.records :=
  (List.mem_filter.1 h).1

/-- A record passes two lists of filters where it passes both. -/
theorem agrees_append (t : Table) (filters more : List Filter) (record : Record) :
    t.agrees (filters ++ more) record = (t.agrees filters record && t.agrees more record) :=
  List.all_append

/-- More filters keep fewer rows. -/
theorem selection_append (t : Table) (filters more : List Filter) :
    t.selection (filters ++ more) = (t.selection filters).filter (t.agrees more) := by
  unfold selection
  rw [List.filter_filter]
  apply List.filter_congr
  intro record _
  rw [agrees_append, Bool.and_comm]

/-- A filter on a column that is there looks at the cell under its name. -/
theorem agrees_singleton {t : Table} {f : Filter} (h : f.column ∈ t.names) (record : Record) :
    t.agrees [f] record = (t.readAt f.column record).matchesFilter f.value := by
  obtain ⟨ref, href⟩ := column_total h
  unfold agrees
  rw [List.all_cons, List.all_nil, Bool.and_true, column_eq_ok.1 href, Option.all_some,
    readAt_eq href]

/-- The filters, once their columns are found, pass the records that agree with them. -/
theorem filterColumns_eq_ok {t : Table} {filters : List Filter}
    {pairs : List (ColumnRef × Value)} (h : t.filterColumns filters = .ok pairs) :
    passes pairs = t.agrees filters := by
  funext record
  unfold filterColumns at h
  rw [mapM_eq_ok] at h
  unfold passes agrees
  induction h with
  | nil => rfl
  | cons hpair hrest ih =>
    obtain ⟨ref, href, hpure⟩ := bind_eq_ok.1 hpair
    rw [pure_eq_ok] at hpure
    subst hpure
    rw [List.all_cons, List.all_cons, ih, column_eq_ok.1 href, Option.all_some]

/-- Filters by columns of the table are all found. -/
theorem filterColumns_total {t : Table} {filters : List Filter}
    (h : ∀ f ∈ filters, f.column ∈ t.names) : ∃ pairs, t.filterColumns filters = .ok pairs := by
  apply mapM_total
  intro f hf
  obtain ⟨ref, href⟩ := column_total (h f hf)
  exact ⟨(ref, f.value), bind_eq_ok.2 ⟨ref, href, rfl⟩⟩

/-- A filter on one column keeps the rows whose cells agree with it. -/
theorem passes_singleton {t : Table} {name : String} {v : Value} {ref : ColumnRef}
    (h : t.column? name = some ref) :
    ∃ filters, t.filterColumns [⟨name, v⟩] = .ok filters ∧
      ∀ record, passes filters record = (ref.read record).matchesFilter v := by
  have hname : name ∈ t.names := mem_names_of_column (column_eq_ok.2 h)
  obtain ⟨filters, hfilters⟩ := @filterColumns_total t [⟨name, v⟩] fun f hf => by
    rw [List.mem_singleton.1 hf]
    exact hname
  refine ⟨filters, hfilters, fun record => ?_⟩
  rw [filterColumns_eq_ok hfilters, agrees_singleton hname, readAt_of_column? h]

/-- Filters that are found are by columns of the table. -/
theorem mem_names_of_filterColumns {t : Table} {filters : List Filter}
    {pairs : List (ColumnRef × Value)} (h : t.filterColumns filters = .ok pairs) {f : Filter}
    (hf : f ∈ filters) : f.column ∈ t.names := by
  obtain ⟨_, _, hpair⟩ := mapM_ok_mem h hf
  obtain ⟨ref, href, _⟩ := bind_eq_ok.1 hpair
  exact mem_names_of_column href

/-! ## Cells of selected rows -/

/-- A column that is found stands at its index. -/
theorem lookup_refs_mem {columns : List Column} {start : Nat} {name : String} {ref : ColumnRef}
    (h : ((columns.zipIdx start).map fun (c, i) => (c.name, (⟨i, c.type⟩ : ColumnRef))).lookup name
      = some ref) :
    ∃ k, ref.index = start + k ∧ (columns[k]?).map (·.type) = some ref.type := by
  induction columns generalizing start with
  | nil => simp at h
  | cons c rest ih =>
    rw [List.zipIdx_cons, List.map_cons, List.lookup_cons] at h
    by_cases hn : name = c.name
    · subst hn
      rw [beq_self_eq_true] at h
      cases h
      exact ⟨0, rfl, rfl⟩
    · simp only [beq_eq_false_iff_ne.2 hn] at h
      obtain ⟨k, hindex, htype⟩ := ih h
      exact ⟨k + 1, by omega, htype⟩

/-- A column is found at its own place. -/
theorem column?_place {t : Table} {name : String} {ref : ColumnRef}
    (h : t.column? name = some ref) : (t.columns[ref.index]?).map (·.type) = some ref.type := by
  obtain ⟨k, hindex, htype⟩ := lookup_refs_mem h
  rw [hindex, Nat.zero_add]
  exact htype

/-- A column that alone has its name is found under it. -/
theorem column?_of_unique {t : Table} {place : Nat} {c : Column} (h : t.columns[place]? = some c)
    (hunique : ∀ other c', t.columns[other]? = some c' → c'.name = c.name → other = place) :
    t.column? c.name = some ⟨place, c.type⟩ := by
  have hrefs : ∀ i : Nat, t.refs[i]? = t.columns[i]?.map fun c => (c.name, ⟨i, c.type⟩) := by
    intro i
    unfold refs
    rw [List.getElem?_map, List.getElem?_zipIdx, Option.map_map, Nat.zero_add]
    rfl
  refine List.lookup_eq_some_iff.2 ⟨t.refs.take place, t.refs.drop (place + 1), ?_, ?_⟩
  · have hplace : t.refs[place]? = some (c.name, ⟨place, c.type⟩) := by rw [hrefs, h]; rfl
    obtain ⟨hlt, hget⟩ := List.getElem?_eq_some_iff.1 hplace
    rw [← hget, ← List.drop_eq_getElem_cons hlt, List.take_append_drop]
  · intro p hp
    obtain ⟨i, hi, hget⟩ := List.mem_take_iff_getElem.1 hp
    have hbefore : i < place := Nat.lt_of_lt_of_le hi (Nat.min_le_left _ _)
    have hcolumn := (List.getElem?_eq_some_iff.2 ⟨_, hget⟩).symm.trans (hrefs i)
    obtain ⟨c', hc', rfl⟩ := Option.map_eq_some_iff.1 hcolumn.symm
    exact bne_iff_ne.2 fun hname => absurd (hunique i c' hc' hname.symm) (Nat.ne_of_lt hbefore)

end Chartboard.Table
