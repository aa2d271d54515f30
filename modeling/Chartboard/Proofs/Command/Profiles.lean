import Chartboard.Command.Run
import Chartboard.Proofs.Data.Sampling
import Chartboard.Proofs.Outcome
import Mathlib.Data.Nat.Find

/-!
# Profiles of files

A profile has an entry for every column of a file, in order, but it looks the numbers of a column up
under its name. So columns that share a name all show the numbers of the last one among them, and a
profile is right about all columns exactly if those that share a name also agree in their numbers.
-/

namespace Chartboard

open Json (Value)
open Outcome

/-- How many cells have no text, and how many different texts the others have. -/
structure CellCounts where
  /-- How many cells are blank or missing. -/
  nulls : Nat
  /-- How many different texts there are. -/
  distinct : Nat
  deriving DecidableEq

namespace CellCounts

/-- The counts of some cells. -/
def ofCells (cells : List (Option String)) : CellCounts :=
  ⟨cells.count none, (cells.filterMap id).toFinset.card⟩

/-- The entry of a profile that shows the counts. -/
def entry (name : String) (type : DetectedType) (counts : CellCounts) : Value :=
  .object
    [("name", .string name),
     ("dtype", .string type.storage.dtype.name),
     ("null_count", .int counts.nulls),
     ("distinct_count", .int counts.distinct)]

/-- Entries with other counts are different. -/
theorem eq_of_entry_eq {name name' : String} {type type' : DetectedType}
    {counts counts' : CellCounts} (h : entry name type counts = entry name' type' counts') :
    counts = counts' := by
  unfold entry at h
  cases counts
  cases counts'
  simp only [Value.object.injEq, List.cons.injEq, Prod.mk.injEq, Value.number.injEq,
    Json.Number.int.injEq, true_and, and_true] at h
  obtain ⟨-, -, hnulls, hdistinct⟩ := h
  rw [mk.injEq]
  omega

end CellCounts

/-! ## Numbers by name -/

/-- What is written to a key last is found under it. -/
theorem Ledger.get?_ofList_of_last {κ ν : Type} [DecidableEq κ] {writes : List (κ × ν)} {k : κ}
    {v : ν} {last : Nat} (h : writes[last]? = some (k, v))
    (hlast : ∀ later w, writes[later]? = some w → w.1 = k → later ≤ last) :
    (ofList writes).get? k = some v := by
  have hsplit : writes.take last ++ writes.drop last = writes := List.take_append_drop last writes
  rw [← hsplit, get?_ofList_append]
  have hlater : (ofList (writes.drop last)).get? k = some v := by
    refine get?_ofList_of_agree (List.mem_map.2 ⟨(k, v), ?_, rfl⟩) ?_
    · exact List.mem_of_getElem? (i := 0) (by rw [List.getElem?_drop]; exact h)
    · intro w hw hkey
      obtain ⟨i, hi⟩ := List.mem_iff_getElem?.1 hw
      rw [List.getElem?_drop] at hi
      have hplace := hlast _ w hi hkey
      obtain rfl : i = 0 := by omega
      rw [Nat.add_zero, h] at hi
      cases hi
      rfl
  rw [hlater, Option.some_or]

/-- An element of a list has a last place. -/
theorem exists_last_place {α : Type} [DecidableEq α] {xs : List α} {x : α} {place : Nat}
    (h : xs[place]? = some x) :
    ∃ last : Nat, xs[last]? = some x ∧ ∀ later : Nat, xs[later]? = some x → later ≤ last := by
  have hbound : ∀ i : Nat, xs[i]? = some x → i ≤ xs.length := fun i hi =>
    Nat.le_of_lt (List.getElem?_eq_some_iff.1 hi).1
  exact ⟨Nat.findGreatest (fun i => xs[i]? = some x) xs.length,
    Nat.findGreatest_spec (P := fun i => xs[i]? = some x) (hbound place h) h,
    fun later hlater => Nat.le_findGreatest (hbound later hlater) hlater⟩

/-! ## Entries -/

namespace DetectedSchema

variable {sampleSize last : Nat} {headers : List String} {rows : List (List String)}
  {header : String}

/-- The counts of the cells of a column in the rows that are looked at. -/
def sampledCounts (sampleSize : Nat) (rows : List (List String)) (place : Nat) : CellCounts :=
  .ofCells ((rows.take (max 1 sampleSize)).map (cellText? · place))

/-- The numbers under a name are those of the last column that has it. -/
theorem statsByName_of_last (h : headers[last]? = some header)
    (hlast : ∀ later : Nat, headers[later]? = some header → later ≤ last) :
    ∃ stats, (ofRows sampleSize headers rows).statsByName.get? header = some stats ∧
      CellCounts.mk stats.nullCount stats.distinctCount = sampledCounts sampleSize rows last := by
  have hcells := ColumnScan.isStatsOf_ofCells
    ((rows.take (max 1 sampleSize)).map (cellText? · last))
  have hwritten : ((ofRows sampleSize headers rows).columns.map fun c => (c.name, c.stats))[last]? =
      some (header, (ColumnScan.ofCells ((rows.take (max 1 sampleSize)).map
        (cellText? · last))).stats) := by
    rw [List.getElem?_map, getElem?_columns, h]
    rfl
  refine ⟨_, Ledger.get?_ofList_of_last hwritten fun later w hw hkey => ?_, ?_⟩
  · rw [List.getElem?_map, getElem?_columns, Option.map_map, Option.map_eq_some_iff] at hw
    obtain ⟨name, hname, rfl⟩ := hw
    exact hlast later (hname.trans (congrArg some hkey))
  · rw [hcells.nullCount, hcells.distinctCount]
    rfl

end DetectedSchema

/-- The entries of a profile. -/
def Source.entries (s : Source) : List Value :=
  s.table.catalog.columns.map s.columnProfile

open DetectedSchema in
/-- The entry of a column in the profile. -/
theorem Source.getElem?_entries {source : Source} {sampleSize place last : Nat}
    {headers : List String} {rows : List (List String)} {header : String}
    (hschema : source.schema = .ofRows sampleSize headers rows)
    (htable : source.table = source.schema.load rows) (hplace : headers[place]? = some header)
    (hheader : headers[last]? = some header)
    (hlast : ∀ later : Nat, headers[later]? = some header → later ≤ last) :
    source.entries[place]? = some (CellCounts.entry header
      (.ofTexts (sampleTexts sampleSize place rows)) (sampledCounts sampleSize rows last)) := by
  obtain ⟨stats, hstats, hcounts⟩ :=
    @statsByName_of_last sampleSize last headers rows header hheader hlast
  have hcolumn := getElem?_columns sampleSize headers rows place
  rw [hplace, Option.map_some, ← hschema] at hcolumn
  have hinfo : source.table.catalog.columns[place]? =
      some ⟨header, (DetectedType.ofTexts (sampleTexts sampleSize place rows)).storage.dtype⟩ := by
    show (source.table.columns.map _)[place]? = _
    rw [htable]
    show ((source.schema.columns.map _).map _)[place]? = _
    rw [List.getElem?_map, List.getElem?_map, hcolumn]
    rfl
  unfold entries
  rw [List.getElem?_map, hinfo, Option.map_some]
  unfold columnProfile
  rw [hschema, hstats, ← hcounts]
  rfl

/-- Every entry shows the counts of the last column that has the name of its own column. -/
def ShowsLast (headers : List String) (types : Nat → DetectedType) (counts : Nat → CellCounts)
    (entries : List Value) : Prop :=
  ∀ (place : Nat) header, headers[place]? = some header → ∃ last : Nat,
    headers[last]? = some header ∧ (∀ later : Nat, headers[later]? = some header → later ≤ last) ∧
    entries[place]? = some (CellCounts.entry header (types place) (counts last))

/-- Such entries show the counts of their own columns exactly if columns of one name have the same
counts. -/
theorem ShowsLast.own_iff {headers : List String} {types : Nat → DetectedType}
    {counts : Nat → CellCounts} {entries : List Value}
    (h : ShowsLast headers types counts entries) :
    (∀ (place : Nat) header, headers[place]? = some header →
      ∃ type, entries[place]? = some (CellCounts.entry header type (counts place))) ↔
    ∀ (place place' : Nat) header, headers[place]? = some header →
      headers[place']? = some header → counts place = counts place' := by
  constructor
  · intro hown place place' header hplace hplace'
    obtain ⟨last, hheader, hlast, hshown⟩ := h place header hplace
    obtain ⟨last', hheader', hlast', hshown'⟩ := h place' header hplace'
    obtain ⟨type, hentry⟩ := hown place header hplace
    obtain ⟨type', hentry'⟩ := hown place' header hplace'
    rw [hshown] at hentry
    rw [hshown'] at hentry'
    rw [← CellCounts.eq_of_entry_eq (Option.some.inj hentry),
      ← CellCounts.eq_of_entry_eq (Option.some.inj hentry'),
      Nat.le_antisymm (hlast' last hheader) (hlast last' hheader')]
  · intro hsame place header hplace
    obtain ⟨last, hheader, -, hshown⟩ := h place header hplace
    rw [hsame last place header hheader hplace] at hshown
    exact ⟨_, hshown⟩

namespace Command

open DetectedSchema

/-- A profile is one of a file that can be loaded. -/
theorem run_profile {files : Files} {path : String} {format : FileFormat} {preview : Option Nat}
    {report : Report} (h : (profile path format preview).run files = .ok report) :
    ∃ options bytes source, format.options = .ok options ∧ files path = .ok bytes ∧
      Source.load options path bytes = .ok source ∧ report = source.profile preview := by
  obtain ⟨source, hsource, hreport⟩ := bind_eq_ok.1 h
  obtain ⟨options, hoptions, hloaded⟩ := bind_eq_ok.1 hsource
  cases hreport
  cases hfile : files path with
  | error e =>
    rw [hfile] at hloaded
    cases hloaded
  | ok bytes =>
    rw [hfile] at hloaded
    dsimp only at hloaded
    cases hload : Source.load options path bytes with
    | error e =>
      rw [hload] at hloaded
      cases hloaded
    | ok loaded =>
      rw [hload] at hloaded
      cases hloaded
      exact ⟨options, bytes, source, hoptions, rfl, hload, rfl⟩

/-- A profile has one entry for each column, in order, which shows the name and the type of the
column, and the counts of the last column of that name. So all entries show the counts of their own
columns exactly if columns of one name have the same counts. -/
theorem profile_counts_own_iff {files : Files} {path : String} {format : FileFormat}
    {preview : Option Nat} {report : Report}
    (h : (profile path format preview).run files = .ok report) :
    ∃ options bytes records headers rows entries,
      format.options = .ok options ∧ files path = .ok bytes ∧
      Csv.read options.delimiter bytes = .ok records ∧
      Source.splitHeader options.hasHeader records = (headers, rows) ∧
      report.result = .object
        [("source", .string (Source.fileName path)), ("rows", .int (rows.length : Nat)),
         ("columns", .array entries)] ∧
      entries.length = headers.length ∧
      (∀ (place : Nat) header, headers[place]? = some header →
        ∃ (type : DetectedType) (last : Nat),
          type.IsTypeOf (sampleTexts options.sampleSize place rows) ∧
          headers[last]? = some header ∧
          (∀ later : Nat, headers[later]? = some header → later ≤ last) ∧
          entries[place]? =
            some (CellCounts.entry header type (sampledCounts options.sampleSize rows last))) ∧
      ((∀ (place : Nat) header, headers[place]? = some header → ∃ type, entries[place]? =
          some (CellCounts.entry header type (sampledCounts options.sampleSize rows place))) ↔
        ∀ (place place' : Nat) header, headers[place]? = some header →
          headers[place']? = some header →
          sampledCounts options.sampleSize rows place =
            sampledCounts options.sampleSize rows place') := by
  obtain ⟨options, bytes, source, hoptions, hfile, hload, rfl⟩ := run_profile h
  obtain ⟨records, headers, rows, hread, hsplit, hname, hschema, htable⟩ :=
    Source.load_eq_ok hload
  have hshown : ShowsLast headers
      (fun place => .ofTexts (sampleTexts options.sampleSize place rows))
      (sampledCounts options.sampleSize rows) source.entries := by
    intro place header hplace
    obtain ⟨last, hheader, hlast⟩ := exists_last_place hplace
    exact ⟨last, hheader, hlast, Source.getElem?_entries hschema htable hplace hheader hlast⟩
  have hcolumns : source.entries.length = headers.length := by
    unfold Source.entries Table.catalog
    rw [List.length_map, List.length_map, htable, hschema]
    unfold DetectedSchema.load ofRows
    rw [List.length_map, List.length_map, List.length_zipIdx]
  refine ⟨options, bytes, records, headers, rows, source.entries, hoptions, hfile, hread, hsplit,
    ?_, hcolumns, ?_, hshown.own_iff⟩
  · have hrows : source.table.records.length = rows.length := by
      rw [htable, records_load, List.length_map]
    rw [← hname, ← hrows]
    rfl
  · intro place header hplace
    obtain ⟨last, hheader, hlast, hentry⟩ := hshown place header hplace
    exact ⟨_, last, DetectedType.isTypeOf_ofTexts _, hheader, hlast, hentry⟩

/-- A file in which two columns have one name. -/
def twiceSales : Files := fun path =>
  if path = "sales.csv" then .ok (Text.bytes "sales,sales\n5,\n7,7\n") else .error .notFound

/-- There is a profile of the file, and both of its entries show counts. -/
theorem profile_counts_own_iff_twiceSales :
    ∃ report, (profile "sales.csv" {} none).run twiceSales = .ok report ∧
      ∃ (headers : List String) (rows : List (List String)) (entries : List Value),
        report.result.member? "columns" = some (.array entries) ∧
        entries.length = headers.length ∧
        ((∀ (place : Nat) header, headers[place]? = some header → ∃ type, entries[place]? =
            some (CellCounts.entry header type (sampledCounts 1000 rows place))) ↔
          ∀ (place place' : Nat) header, headers[place]? = some header →
            headers[place']? = some header →
            sampledCounts 1000 rows place = sampledCounts 1000 rows place') := by
  have hruns : ((profile "sales.csv" {} none).run twiceSales).toOption.isSome = true := by
    decide +kernel
  cases hrun : (profile "sales.csv" {} none).run twiceSales with
  | error failure =>
    rw [hrun] at hruns
    cases hruns
  | ok report =>
    obtain ⟨options, _, _, headers, rows, entries, hoptions, -, -, -, hresult, hlength, -, hown⟩ :=
      profile_counts_own_iff hrun
    cases hoptions
    exact ⟨report, rfl, headers, rows, entries, by rw [hresult]; rfl, hlength, hown⟩

/-- The first of the two columns has no nulls and two texts, but its entry shows the one null and
the one text of the second column. -/
theorem twiceSales_first_not_shown :
    ((profile "sales.csv" {} none).run twiceSales).toOption.map
      (fun report => (report.result.member? "columns").map Value.compress) =
      some (some ("[\x7b\"name\":\"sales\",\"dtype\":\"int64\",\"null_count\":1,"
        ++ "\"distinct_count\":1\x7d,"
        ++ "\x7b\"name\":\"sales\",\"dtype\":\"int64\",\"null_count\":1,"
        ++ "\"distinct_count\":1\x7d]")) ∧
    (Csv.read 0x2C (Text.bytes "sales,sales\n5,\n7,7\n")).toOption =
      some [["sales", "sales"], ["5", ""], ["7", "7"]] ∧
    sampledCounts 1000 [["5", ""], ["7", "7"]] 0 = ⟨0, 2⟩ ∧
    sampledCounts 1000 [["5", ""], ["7", "7"]] 1 = ⟨1, 1⟩ := by
  refine ⟨?_, ?_, ?_, ?_⟩
  all_goals decide +kernel

end Command

end Chartboard
