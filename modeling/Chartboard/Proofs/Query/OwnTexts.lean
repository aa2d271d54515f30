import Chartboard.Proofs.Data.Detection
import Chartboard.Proofs.Decimal.Reading
import Chartboard.Proofs.Query.Sameness
import Chartboard.Proofs.Query.Selection
import Chartboard.Proofs.Text.Bytes

/-!
# Cells found by their own texts

A filter with a text compares it with the number in a cell, or with the label of a cell that holds
no number. So a text finds the cell that it was loaded into if it is a finite number, in whatever
spelling, or if its spelling is that of the label. It does not find a truth value that is spelled
with capitals, a date that is not spelled as dates are shown, or a double that is not finite.
-/

namespace Chartboard

open Json (Value Number)

/-! ## What a text finds -/

/-- The text, which is of the type, finds the cell it was loaded into. Any spelling of an integer or
of a finite double does, but a truth value or a date has to be spelled as it is shown. -/
def DetectedType.FindsOwn (type : DetectedType) (s : String) : Prop :=
  match type with
  | bool => s = "true" ∨ s = "false"
  | int => True
  | float => ∃ x, Double.ofText? s = some x ∧ x.isFinite
  | datetime => ∃ millis, millisOfText? s = some millis ∧
      s = StorageType.tickText .millisecond millis
  | text => True

/-- A text is compared with the label of a truth value. -/
theorem matchesFilter_bool_text (b : Bool) (s : String) :
    (Value.bool b).matchesFilter (.string s) = ((Value.bool b).label == s) :=
  rfl

/-- A number is compared with the number that a trimmed text is. -/
theorem matchesFilter_number_text {n : Number} {s : String} {x : Float} (htrim : Text.trim s = s)
    (h : Double.ofText? s = some x) :
    (Value.number n).matchesFilter (.string s) = (n.toFloat == x) := by
  have htext : (Value.string s).asNumber? = some x := by
    show Double.ofText? (Text.trim s) = some x
    rw [htrim, h]
  unfold Value.matchesFilter
  rw [htext]
  rfl

namespace DetectedType

variable {s : String} {cell : Cell}

/-- The text of a truth value finds it exactly where it is spelt like the label. -/
theorem findsOwn_bool_iff (h : bool.parse? s = some cell) :
    (bool.storage.read cell).matchesFilter (.string s) ↔ bool.FindsOwn s := by
  obtain ⟨b, hb, rfl⟩ := Option.map_eq_some_iff.1 h
  show (Value.bool b).matchesFilter (.string s) = true ↔ s = "true" ∨ s = "false"
  rw [matchesFilter_bool_text, beq_iff_eq]
  constructor
  · rintro rfl
    cases b with
    | true => exact .inl rfl
    | false => exact .inr rfl
  · rintro (rfl | rfl)
    · cases hb
      rfl
    · cases hb
      rfl

/-- The trimmed text of an integer always finds it. -/
theorem findsOwn_int (htrim : Text.trim s = s) (h : int.parse? s = some cell) :
    (int.storage.read cell).matchesFilter (.string s) := by
  obtain ⟨i, hi, rfl⟩ := Option.map_eq_some_iff.1 h
  obtain ⟨x, hx, hequal⟩ := Double.ofText?_of_int64OfText? hi
  show (Value.int i).matchesFilter (.string s) = true
  rw [matchesFilter_number_text htrim hx]
  exact hequal

/-- The trimmed text of a float finds it exactly where the float is finite. -/
theorem findsOwn_float_iff (htrim : Text.trim s = s) (h : float.parse? s = some cell) :
    (float.storage.read cell).matchesFilter (.string s) ↔ float.FindsOwn s := by
  obtain ⟨x, hx, rfl⟩ := Option.map_eq_some_iff.1 h
  show (Value.ofFloat x).matchesFilter (.string s) = true ↔
    ∃ x, Double.ofText? s = some x ∧ x.isFinite
  rw [hx]
  unfold Value.ofFloat
  split
  · next hfinite =>
    rw [matchesFilter_number_text htrim hx]
    exact iff_of_true (Double.beq_self (Double.isNaN_of_isFinite hfinite)) ⟨x, rfl, hfinite⟩
  · next hinfinite =>
    -- No number is spelled as null is.
    have hword : s ≠ "null" := by
      rintro rfl
      cases hx
    rw [matchesFilter_null_text, beq_iff_eq]
    refine iff_of_false hword.symm ?_
    rintro ⟨y, hy, hfinite⟩
    cases hy
    exact hinfinite hfinite

/-- The text of an instant finds it exactly where it is spelt like the label. -/
theorem findsOwn_datetime_iff (h : datetime.parse? s = some cell) :
    (datetime.storage.read cell).matchesFilter (.string s) ↔ datetime.FindsOwn s := by
  obtain ⟨millis, hmillis, rfl⟩ := Option.map_eq_some_iff.1 h
  show (Value.string (StorageType.tickText .millisecond millis)).matchesFilter (.string s) = true ↔
    ∃ millis, millisOfText? s = some millis ∧ s = StorageType.tickText .millisecond millis
  rw [matchesFilter_texts, beq_iff_eq, hmillis]
  constructor
  · intro hshown
    exact ⟨millis, rfl, hshown.symm⟩
  · rintro ⟨_, hsame, hshown⟩
    cases hsame
    exact hshown.symm

/-- A text always finds itself. -/
theorem findsOwn_text (h : text.parse? s = some cell) :
    (text.storage.read cell).matchesFilter (.string s) := by
  cases h
  show (Value.string s).matchesFilter (.string s) = true
  rw [matchesFilter_texts]
  exact beq_self_eq_true s

/-- A filter with the text of a cell keeps the cell exactly if the text finds it. -/
theorem matchesFilter_own_iff {type : DetectedType} (htrim : Text.trim s = s)
    (h : type.parse? s = some cell) :
    (type.storage.read cell).matchesFilter (.string s) ↔ type.FindsOwn s := by
  cases type with
  | bool => exact findsOwn_bool_iff h
  | int => exact iff_of_true (findsOwn_int htrim h) trivial
  | float => exact findsOwn_float_iff htrim h
  | datetime => exact findsOwn_datetime_iff h
  | text => exact iff_of_true (findsOwn_text h) trivial

end DetectedType

/-! ## Rows -/

namespace DetectedSchema

/-- A header that no other column has leads to its own column. -/
theorem column?_of_header {sampleSize place : Nat} {headers : List String}
    {rows : List (List String)} {column : DetectedColumn}
    (hcolumn : (ofRows sampleSize headers rows).columns[place]? = some column)
    (hunique : ∀ other : Nat, headers[other]? = some column.name → other = place) :
    ((ofRows sampleSize headers rows).load rows).column? column.name =
      some ⟨place, column.type.storage⟩ := by
  have hloaded : ∀ other : Nat, ((ofRows sampleSize headers rows).load rows).columns[other]? =
      ((ofRows sampleSize headers rows).columns[other]?).map fun c => ⟨c.name, c.type.storage⟩ :=
    fun _ => List.getElem?_map
  have hplace := hloaded place
  rw [hcolumn, Option.map_some] at hplace
  refine Table.column?_of_unique hplace fun other c hother hname => hunique other ?_
  rw [hloaded, getElem?_columns, Option.map_map, Option.map_eq_some_iff] at hother
  obtain ⟨name, hheader, rfl⟩ := hother
  exact hheader.trans (congrArg some hname)

/-- What queries read in a cell whose text is of the type of the column. -/
theorem read_loadRow {s : DetectedSchema} {place : Nat} {column : DetectedColumn}
    (hcolumn : s.columns[place]? = some column) {row : List String} {text : String} {cell : Cell}
    (htext : cellText? row place = some text) (hcell : column.type.parse? text = some cell) :
    (ColumnRef.mk place column.type.storage).read (s.loadRow row) =
      column.type.storage.read cell := by
  unfold ColumnRef.read
  rw [List.getD_eq_getElem?_getD, getElem?_loadRow hcolumn, htext]
  unfold loadCell
  rw [Option.bind_some, hcell, Option.getD_some, Option.getD_some]

end DetectedSchema

namespace Source

open DetectedSchema

/-- A filter with the text of a cell that was looked at keeps the row of the cell exactly if the
text finds it: always in columns of texts and of integers, but only if it is finite in a column of
doubles, and only if it is spelled as it is shown in a column of truth values or of dates. -/
theorem row_kept_by_own_text_iff {options : CsvOptions} {path : String} {bytes : List UInt8}
    {source : Source} (h : load options path bytes = .ok source) :
    ∃ records headers rows, Csv.read options.delimiter bytes = .ok records ∧
      splitHeader options.hasHeader records = (headers, rows) ∧
      ∀ (place : Nat) header, headers[place]? = some header →
        (∀ other : Nat, headers[other]? = some header → other = place) →
        ∀ (i : Nat) row cell, rows[i]? = some row → i < max 1 options.sampleSize →
          row[place]? = some cell → Text.trim cell ≠ "" →
          ∃ (column : DetectedColumn) (record : Record) (filters : List (ColumnRef × Value)),
            source.schema.columns[place]? = some column ∧
            column.name = header ∧
            source.table.records[i]? = some record ∧
            source.table.filterColumns [⟨header, .string (Text.trim cell)⟩] = .ok filters ∧
            (Table.passes filters record ↔ column.type.FindsOwn (Text.trim cell)) := by
  obtain ⟨records, headers, rows, hread, hsplit, -, hschema, htable⟩ := load_eq_ok h
  refine ⟨records, headers, rows, hread, hsplit, ?_⟩
  intro place header hheader hunique i row cell hrow hi hcell hblank
  have hcolumn := getElem?_columns options.sampleSize headers rows place
  rw [hheader, Option.map_some] at hcolumn
  obtain ⟨filters, hfilters, hpasses⟩ := Table.passes_singleton
    (v := .string (Text.trim cell)) (column?_of_header hcolumn hunique)
  have htext : cellText? row place = some (Text.trim cell) :=
    cellText?_eq_some_iff.2 ⟨cell, hcell, hblank, rfl⟩
  obtain ⟨value, hvalue⟩ := Option.isSome_iff_exists.1 (accepts_sampled hi hrow htext)
  rw [htable, hschema]
  refine ⟨_, (ofRows options.sampleSize headers rows).loadRow row, filters, hcolumn, rfl, ?_,
    hfilters, ?_⟩
  · rw [records_load, List.getElem?_map, hrow, Option.map_some]
  · rw [hpasses, read_loadRow hcolumn htext hvalue]
    exact DetectedType.matchesFilter_own_iff (Text.trim_trim cell) hvalue

/-- The bytes of a file with one column of one cell. -/
def cellFile (header cell : String) : List UInt8 :=
  Text.bytes (header ++ "\n" ++ cell ++ "\n")

/-- In a file with one member, the text of the cell keeps its row exactly if it finds the cell. -/
theorem row_kept_by_own_text_iff_member :
    ∃ source, load {} "members.csv" (cellFile "vip" " true ") = .ok source ∧
      ∃ (column : DetectedColumn) (record : Record) (filters : List (ColumnRef × Value)),
        source.schema.columns[0]? = some column ∧ column.name = "vip" ∧
        source.table.records[0]? = some record ∧
        source.table.filterColumns [⟨"vip", .string "true"⟩] = .ok filters ∧
        (Table.passes filters record ↔ column.type.FindsOwn "true") := by
  have hloads : (load {} "members.csv" (cellFile "vip" " true ")).toOption.isSome = true := by
    decide +kernel
  have hreads :
      (Csv.read 0x2C (cellFile "vip" " true ")).toOption = some [["vip"], [" true "]] := by
    decide +kernel
  cases hload : load {} "members.csv" (cellFile "vip" " true ") with
  | error e =>
    rw [hload] at hloads
    cases hloads
  | ok source =>
    obtain ⟨records, headers, rows, hread, hsplit, hkept⟩ := row_kept_by_own_text_iff hload
    refine ⟨source, rfl, ?_⟩
    rw [hread] at hreads
    cases hreads
    cases hsplit
    have htrim : Text.trim " true " = "true" := by decide +kernel
    have hheader : (["vip"].map Text.trim)[0]? = some "vip" := by decide +kernel
    have hunique : ∀ other : Nat, (["vip"].map Text.trim)[other]? = some "vip" → other = 0 := by
      intro other hother
      have hlt := (List.getElem?_eq_some_iff.1 hother).1
      exact Nat.lt_one_iff.1 hlt
    have hrow := hkept 0 "vip" hheader hunique 0 [" true "] " true " rfl (by decide) rfl
      (by rw [htrim]; decide)
    rw [htrim] at hrow
    exact hrow

/-- How many rows of a file with one cell a filter with the text of the cell keeps. -/
def ownRows (header cell : String) : Option Nat :=
  (load {} "cells.csv" (cellFile header cell)).toOption.bind fun source =>
    (source.table.run { filters := [⟨header, .string cell⟩] }).toOption.bind (·.totalRows)

/-- A truth value with capitals, a day without a time and an infinity do not keep their rows. -/
theorem rows_not_kept_by_own_texts :
    (Csv.read 0x2C (cellFile "vip" "TRUE")).toOption = some [["vip"], ["TRUE"]] ∧
    ownRows "vip" "TRUE" = some 0 ∧
    (Csv.read 0x2C (cellFile "day" "2024-01-05")).toOption = some [["day"], ["2024-01-05"]] ∧
    ownRows "day" "2024-01-05" = some 0 ∧
    (Csv.read 0x2C (cellFile "load" "inf")).toOption = some [["load"], ["inf"]] ∧
    ownRows "load" "inf" = some 0 := by
  decide +kernel

end Source

end Chartboard
