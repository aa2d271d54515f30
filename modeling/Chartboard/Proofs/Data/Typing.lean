import Chartboard.Proofs.Decimal.Reading
import Chartboard.Proofs.Query.Selection
import Mathlib.Algebra.Group.Int.Defs

/-!
# Well typed tables

In a data set every cell is a value of the type of its column. Queries then read all cells of one
column alike; in particular every cell of a numeric column is null or reads as a number, whatever
the width of the numbers is.
-/

namespace Chartboard

open Json (Value)

/-- A column of the type can hold the cell. Floating point numbers of less than 32 bits are held by
their texts, and so are dates and times in units other than days, seconds and milliseconds. -/
def StorageType.admits : StorageType → Cell → Bool
  | _, .null => true
  | bool, .bool _ => true
  | int bits, .int i => bits ≤ 64 && -2 ^ (bits - 1) ≤ i && i < 2 ^ (bits - 1)
  | nat bits, .int i => bits ≤ 64 && 0 ≤ i && i < 2 ^ bits
  | float bits, .float _ => 32 ≤ bits
  | float bits, .text s => bits < 32 && (Double.ofText? (Text.trim s)).isSome
  | text, .text _ | largeText, .text _ | category, .text _ => true
  | days, .int _ | days, .text _ | ticks _, .int _ | ticks _, .text _ => true
  | other, .text _ => true
  | _, _ => false

/-- Every column can hold the cells of all rows at its place. -/
def Table.isWellTyped (t : Table) : Bool :=
  t.records.all fun record => t.columns.zipIdx.all fun (c, i) =>
    c.type.admits (record.getD i .null)

/-- A column of a well typed table can hold what is found under its name. -/
theorem Table.admits_of_column? {t : Table} (h : t.isWellTyped) {name : String} {ref : ColumnRef}
    (href : t.column? name = some ref) {record : Record} (hrecord : record ∈ t.records) :
    ref.type.admits (record.getD ref.index .null) := by
  obtain ⟨c, hc, htype⟩ := Option.map_eq_some_iff.1 (column?_place href)
  unfold isWellTyped at h
  have hcolumns := List.all_eq_true.1 (List.all_eq_true.1 h record hrecord)
  have hmem : (c, ref.index) ∈ t.columns.zipIdx := by
    rw [List.mem_iff_getElem?]
    exact ⟨ref.index, by rw [List.getElem?_zipIdx, hc]; simp⟩
  rw [← htype]
  exact hcolumns _ hmem

/-- A double is read as a number, or as null where it is not finite. -/
theorem null_or_number_ofFloat (x : Float) :
    (Value.ofFloat x).isNull ∨ (Value.ofFloat x).asNumber?.isSome := by
  unfold Value.ofFloat
  split
  · exact Or.inr rfl
  · exact Or.inl rfl

/-- An integer reads as a number, also where it is held by its text. -/
theorem asNumber?_integer (bits : Nat) (i : Int) :
    (if bits < 32 then Value.string (toString i) else Value.int i).asNumber?.isSome := by
  split
  · show (Double.ofText? (Text.trim (toString i))).isSome
    rw [trim_toString_int, Double.ofText?_toString_int]
    rfl
  · rfl

/-- A cell of a numeric column is null or reads as a number. -/
theorem StorageType.read_numeric {type : StorageType} {cell : Cell} (h : type.admits cell)
    (hnumeric : type.dtype.isNumeric) :
    (type.read cell).isNull ∨ (type.read cell).asNumber?.isSome := by
  cases type with
  | int bits =>
    cases cell with
    | null => exact Or.inl rfl
    | int i => exact Or.inr (asNumber?_integer bits i)
    | bool b => cases h
    | float x => cases h
    | text s => cases h
  | nat bits =>
    cases cell with
    | null => exact Or.inl rfl
    | int i => exact Or.inr (asNumber?_integer bits i)
    | bool b => cases h
    | float x => cases h
    | text s => cases h
  | float bits =>
    cases cell with
    | null => exact Or.inl rfl
    | float x => exact null_or_number_ofFloat x
    | text s => exact Or.inr (Bool.and_eq_true_iff.1 h).2
    | bool b => cases h
    | int i => cases h
  | bool => cases hnumeric
  | text => cases hnumeric
  | largeText => cases hnumeric
  | category => cases hnumeric
  | days => cases hnumeric
  | ticks unit => cases hnumeric
  | other => cases hnumeric

/-- Every row of a well typed table has a null or a number in a numeric column. -/
theorem Table.read_numeric {t : Table} (h : t.isWellTyped) {name : String} {ref : ColumnRef}
    (href : t.column? name = some ref) (hnumeric : ref.type.dtype.isNumeric) {record : Record}
    (hrecord : record ∈ t.records) :
    (ref.read record).isNull ∨ (ref.read record).asNumber?.isSome :=
  StorageType.read_numeric (admits_of_column? h href hrecord) hnumeric

end Chartboard
