import Chartboard.Data.Source
import Chartboard.Proofs.Outcome
import Mathlib.Data.List.Basic

/-!
# Detected and loaded columns

The type of a column is detected from the first rows, and then all rows are loaded by that type.
Cell by cell, a scan of the first rows keeps the types that have accepted every text, so in the end
it has the first type that accepts them all. A loaded cell is null exactly if it is missing, blank
or no text of that type. So a cell that was looked at for the type is null only if it is missing or
blank, and a sample of all rows counts the nulls of the loaded column.
-/

namespace Chartboard

open Outcome

namespace DetectedType

/-- No text stands for a null. -/
theorem parse?_ne_null (type : DetectedType) (s : String) : type.parse? s ≠ some .null := by
  cases type with
  | text => exact fun h => nomatch h
  | _ =>
    unfold parse?
    simp

/-- The type of some texts: the first one that accepts them all, and plain text if there are
none. -/
def ofTexts (texts : List String) : DetectedType :=
  if texts.isEmpty then text
  else (candidates.find? fun type => texts.all type.accepts).getD text

/-- The type of some texts accepts every one of them. -/
theorem accepts_of_mem {texts : List String} {s : String} (h : s ∈ texts) :
    (ofTexts texts).accepts s := by
  unfold ofTexts
  rw [if_neg (by simpa using List.ne_nil_of_mem h)]
  cases hfound : candidates.find? fun type => texts.all type.accepts with
  | none => rfl
  | some type =>
    have hall : texts.all (accepts type) = true := by
      have hfirst := List.find?_eq_some_iff_append.1 hfound
      exact hfirst.1
    exact List.all_eq_true.1 hall s h

end DetectedType

/-! ## Scanned cells -/

namespace ColumnScan

/-- A scan adds the cells without a text to the nulls, keeps the texts of the others, and drops the
types that do not accept all these texts. -/
theorem foldl_push (cells : List (Option String)) (scan : ColumnScan) :
    cells.foldl push scan =
      { nulls := scan.nulls + cells.countP (·.isNone)
        texts := scan.texts ++ cells.filterMap id
        accepting := scan.accepting.filter fun type => (cells.filterMap id).all type.accepts } := by
  induction cells generalizing scan with
  | nil => simp
  | cons cell rest ih =>
    rw [List.foldl_cons, ih]
    cases cell with
    | none =>
      simp [push]
      omega
    | some text => simp [push, List.filter_filter, Bool.and_comm]

/-- The scanned type is the first one that accepts every text. -/
theorem type_ofCells (cells : List (Option String)) :
    (ofCells cells).type = .ofTexts (cells.filterMap id) := by
  unfold ofCells type DetectedType.ofTexts
  rw [foldl_push, List.head?_filter]
  rfl

/-- The scanned nulls are the cells without a text. -/
theorem nullCount_ofCells (cells : List (Option String)) :
    (ofCells cells).stats.nullCount = cells.countP (·.isNone) := by
  unfold ofCells stats
  rw [foldl_push]
  exact Nat.zero_add _

end ColumnScan

namespace DetectedSchema

variable {row : List String} {place : Nat}

/-- The text of a cell is what is left of it without blanks, unless nothing is left. -/
theorem cellText?_eq_some_iff {s : String} :
    cellText? row place = some s ↔
      ∃ text, row[place]? = some text ∧ Text.trim text ≠ "" ∧ Text.trim text = s := by
  unfold cellText?
  rw [Option.filter_eq_some_iff, Option.map_eq_some_iff]
  constructor
  · rintro ⟨⟨text, htext, rfl⟩, hblank⟩
    exact ⟨text, htext, of_decide_eq_true hblank, rfl⟩
  · rintro ⟨text, htext, hblank, rfl⟩
    exact ⟨⟨text, htext, rfl⟩, decide_eq_true hblank⟩

/-- A cell is loaded as null if it has no text or one that is not of the type. -/
theorem loadCell_eq_null_iff {type : DetectedType} {text : Option String} :
    loadCell type text = .null ↔ ∀ s, text = some s → type.parse? s = none := by
  unfold loadCell
  cases text with
  | none => simp
  | some s =>
    rw [Option.bind_some]
    cases hvalue : type.parse? s with
    | none => simp [hvalue]
    | some value =>
      have hnull : value ≠ .null := fun h => DetectedType.parse?_ne_null type s (h ▸ hvalue)
      simp [hnull, hvalue]

/-- The texts of a column among the rows that are looked at. -/
def sampleTexts (sampleSize place : Nat) (rows : List (List String)) : List String :=
  (rows.take (effectiveSampleSize sampleSize)).filterMap fun row => cellText? row place

/-- A column is detected from the sampled cells at its place. -/
theorem getElem?_columns (sampleSize : Nat) (headers : List String) (rows : List (List String))
    (place : Nat) :
    (ofRows sampleSize headers rows).columns[place]? =
      headers[place]?.map fun name => ⟨name, .ofTexts (sampleTexts sampleSize place rows),
        (ColumnScan.ofCells ((rows.take (effectiveSampleSize sampleSize)).map fun row =>
          cellText? row place)).stats⟩ := by
  unfold ofRows sampleTexts
  rw [List.getElem?_map, List.getElem?_zipIdx, Option.map_map, Nat.zero_add]
  simp only [ColumnScan.type_ofCells, List.filterMap_map]
  rfl

variable {sampleSize : Nat} {headers : List String} {rows : List (List String)}

/-- The cells of a row as they are loaded. -/
def loadRow (s : DetectedSchema) (row : List String) : Record :=
  s.columns.zipIdx.map fun (c, place) => loadCell c.type (cellText? row place)

/-- Rows are loaded one by one. -/
theorem records_load (s : DetectedSchema) (rows : List (List String)) :
    (s.load rows).records = rows.map s.loadRow :=
  rfl

/-- A cell is loaded as the type of its column. -/
theorem getElem?_loadRow {s : DetectedSchema} {column : DetectedColumn}
    (h : s.columns[place]? = some column) (row : List String) :
    (s.loadRow row)[place]? = some (loadCell column.type (cellText? row place)) := by
  unfold loadRow
  rw [List.getElem?_map, List.getElem?_zipIdx, h, Option.map_some, Option.map_some, Nat.zero_add]

/-- A text that was looked at is of the type that was detected. -/
theorem accepts_sampled {i : Nat} {s : String} (hi : i < effectiveSampleSize sampleSize)
    (hrow : rows[i]? = some row) (htext : cellText? row place = some s) :
    (DetectedType.ofTexts (sampleTexts sampleSize place rows)).accepts s := by
  refine DetectedType.accepts_of_mem (List.mem_filterMap.2 ⟨row, ?_, htext⟩)
  rw [List.mem_iff_getElem?]
  exact ⟨i, by rw [List.getElem?_take_of_lt hi, hrow]⟩

/-- A cell that was looked at is null only if it has no text. -/
theorem loadCell_sampled {i : Nat} (hi : i < effectiveSampleSize sampleSize)
    (hrow : rows[i]? = some row) :
    loadCell (.ofTexts (sampleTexts sampleSize place rows)) (cellText? row place) = .null ↔
      cellText? row place = none := by
  rw [loadCell_eq_null_iff, Option.eq_none_iff_forall_ne_some]
  refine forall_congr' fun s => ⟨fun h htext => ?_, fun h htext => absurd htext h⟩
  have haccepts := accepts_sampled hi hrow htext
  unfold DetectedType.accepts at haccepts
  rw [h htext] at haccepts
  cases haccepts

/-! ## Counted nulls -/

/-- The cell holds no value. -/
def isNullCell : Cell → Bool
  | .null => true
  | _ => false

/-- Only the null cell counts as null. -/
theorem isNullCell_iff {cell : Cell} : isNullCell cell ↔ cell = .null := by
  cases cell <;> simp [isNullCell]

/-- The number of nulls in a loaded column. -/
theorem getElem?_nullCounts {s : DetectedSchema} {column : DetectedColumn}
    (h : s.columns[place]? = some column) (name : String) (rows : List (List String)) :
    (Source.mk name s (s.load rows)).nullCounts[place]? =
      some (rows.countP fun row => isNullCell (loadCell column.type (cellText? row place))) := by
  have hcolumn : (s.load rows).columns[place]? = some ⟨column.name, column.type.storage⟩ := by
    show (s.columns.map _)[place]? = _
    rw [List.getElem?_map, h, Option.map_some]
  have hcount : ((s.load rows).records.filter fun r => isNullCell (r.getD place .null)).length =
      rows.countP fun row => isNullCell (loadCell column.type (cellText? row place)) := by
    rw [records_load, ← List.countP_eq_length_filter, List.countP_map]
    refine List.countP_congr fun row _ => ?_
    rw [Function.comp_apply, List.getD_eq_getElem?_getD, getElem?_loadRow h, Option.getD_some]
  unfold Source.nullCounts
  rw [List.getElem?_map, List.getElem?_zipIdx, hcolumn, Option.map_some, Option.map_some,
    Nat.zero_add, ← hcount]
  rfl

/-- If all rows were looked at, a loaded column has as many nulls as were counted. -/
theorem nullCounts_of_all_sampled (h : rows.length ≤ effectiveSampleSize sampleSize)
    (name : String) :
    (Source.mk name (ofRows sampleSize headers rows)
      ((ofRows sampleSize headers rows).load rows)).nullCounts =
      (ofRows sampleSize headers rows).columns.map (·.stats.nullCount) := by
  refine List.ext_getElem? fun place => ?_
  rw [List.getElem?_map]
  cases hcolumn : (ofRows sampleSize headers rows).columns[place]? with
  | none =>
    have hlength := List.getElem?_eq_none_iff.1 hcolumn
    rw [Option.map_none, List.getElem?_eq_none_iff]
    unfold Source.nullCounts load
    simpa using hlength
  | some column =>
    rw [getElem?_nullCounts hcolumn, Option.map_some, Option.some.injEq]
    rw [getElem?_columns, Option.map_eq_some_iff] at hcolumn
    obtain ⟨header, -, rfl⟩ := hcolumn
    rw [ColumnScan.nullCount_ofCells, List.take_of_length_le h, List.countP_map]
    refine List.countP_congr fun row hrow => ?_
    obtain ⟨i, hi⟩ := List.mem_iff_getElem?.1 hrow
    have hlt : i < rows.length := (List.getElem?_eq_some_iff.1 hi).1
    rw [isNullCell_iff, loadCell_sampled (Nat.lt_of_lt_of_le hlt h) hi, Function.comp_apply,
      Option.isNone_iff_eq_none]

/-- A loaded cell is null exactly if there is no cell, only blanks, or a text that is not of the
type detected from the first rows. So no text among these rows is lost, and if they are all rows,
the loaded columns have as many nulls as were counted. -/
theorem loaded_as_detected (sampleSize : Nat) (headers : List String)
    (rows : List (List String)) :
    let s := ofRows sampleSize headers rows
    let t := s.load rows
    (∀ place header, headers[place]? = some header → ∃ column : DetectedColumn,
      s.columns[place]? = some column ∧ column.name = header ∧
      column.type = .ofTexts ((rows.take (max 1 sampleSize)).filterMap (cellText? · place)) ∧
      ∀ i row, rows[i]? = some row → ∃ record cell,
        t.records[i]? = some record ∧ record[place]? = some cell ∧
        (cell = .null ↔ ∀ text, row[place]? = some text →
          Text.trim text = "" ∨ column.type.parse? (Text.trim text) = none) ∧
        (i < max 1 sampleSize → ∀ text, row[place]? = some text → Text.trim text ≠ "" →
          cell ≠ .null)) ∧
    (rows.length ≤ max 1 sampleSize → ∀ name,
      (Source.mk name s t).nullCounts = s.columns.map (·.stats.nullCount)) := by
  intro s t
  refine ⟨?_, nullCounts_of_all_sampled⟩
  intro place header hheader
  have hcolumn := getElem?_columns sampleSize headers rows place
  rw [hheader, Option.map_some] at hcolumn
  refine ⟨_, hcolumn, rfl, rfl, fun i row hrow => ?_⟩
  refine ⟨s.loadRow row, _, ?_, getElem?_loadRow hcolumn row, ?_, ?_⟩
  · rw [records_load, List.getElem?_map, hrow, Option.map_some]
  · rw [loadCell_eq_null_iff]
    constructor
    · intro h text htext
      by_cases hblank : Text.trim text = ""
      · exact .inl hblank
      · exact .inr (h _ (cellText?_eq_some_iff.2 ⟨text, htext, hblank, rfl⟩))
    · intro h s hs
      obtain ⟨text, htext, hblank, rfl⟩ := cellText?_eq_some_iff.1 hs
      exact (h text htext).resolve_left hblank
  · intro hi text htext hblank hnull
    have hnone := (loadCell_sampled hi hrow).1 hnull
    rw [cellText?_eq_some_iff.2 ⟨text, htext, hblank, rfl⟩] at hnone
    cases hnone

end DetectedSchema

/-! ## Files -/

namespace Source

/-- What a loaded file is made of. -/
theorem load_eq_ok {options : CsvOptions} {path : String} {bytes : List UInt8} {source : Source}
    (h : load options path bytes = .ok source) :
    ∃ records headers rows, Csv.read options.delimiter bytes = .ok records ∧
      splitHeader options.hasHeader records = (headers, rows) ∧
      source.name = fileName path ∧
      source.schema = .ofRows options.sampleSize headers rows ∧
      source.table = source.schema.load rows := by
  obtain ⟨records, hrecords, h⟩ := bind_eq_ok.1 h
  cases hread : Csv.read options.delimiter bytes with
  | error e =>
    rw [hread] at hrecords
    cases hrecords
  | ok found =>
    rw [hread] at hrecords
    cases hrecords
    refine ⟨records, _, _, rfl, rfl, ?_⟩
    dsimp only at h
    split at h
    · cases h
    · cases h
      exact ⟨rfl, rfl, rfl⟩

end Source

end Chartboard
