import Chartboard.Proofs.Decimal.Finite
import Chartboard.Proofs.Query.Binned
import Chartboard.Proofs.Render.Drawing

/-!
# Bins that can be drawn

The row of a bin holds its middle under the name of the column, but its edges are written after it.
A column that is itself called like an edge has the edge there instead. A bin is drawn if its
middle is finite, except where the upper edge stands in its place and is not finite.
-/

namespace Chartboard

open Json (Value)
open Outcome

/-! ## Keys of a bin -/

/-- The key of the counts is the name of the column with a suffix. -/
theorem toList_histogramCountKey (column : String) :
    (histogramCountKey column).toList = column.toList ++ "_count".toList := by
  show ((column ++ "_") ++ "count").toList = _
  rw [String.toList_append, String.toList_append, List.append_assoc]
  rfl

/-- A text that does not end in the name of counting is no key of frequencies. -/
theorem histogramCountKey_ne {column key : String} (h : ¬ "_count".toList <:+ key.toList) :
    key ≠ histogramCountKey column := by
  rintro rfl
  exact h ⟨column.toList, (toList_histogramCountKey column).symm⟩

/-- No column has its counts under the key of the lower edges. -/
theorem binStartKey_ne_countKey (column : String) : binStartKey ≠ histogramCountKey column :=
  histogramCountKey_ne (by decide)

/-- No column has its counts under the key of the upper edges. -/
theorem binEndKey_ne_countKey (column : String) : binEndKey ≠ histogramCountKey column :=
  histogramCountKey_ne (by decide)

/-- No column has its own name as the key of its counts. -/
theorem column_ne_countKey (column : String) : column ≠ histogramCountKey column := by
  intro h
  have hlength := congrArg (fun s => s.toList.length) h
  simp only [toList_histogramCountKey, List.length_append] at hlength
  have hcount : "_count".toList.length = 6 := by decide
  omega

namespace Binning

variable (b : Binning) (column : String) (i n : Nat)

/-- What the row of a bin holds under the name of the column. -/
def shown : Float :=
  if column = binEndKey then b.upper i
  else if column = binStartKey then b.lower i
  else b.middle i

/-- The cells of a bin. Those that are written later hide those under the same key. -/
theorem get?_row (key : String) :
    (b.row column i n).get? key =
      [(histogramCountKey column, Value.int n), (binEndKey, .ofFloat (b.upper i)),
        (binStartKey, .ofFloat (b.lower i)), (column, .ofFloat (b.middle i))].lookup key :=
  Ledger.get?_ofList _ key

/-- Nothing hides the count of a bin. -/
theorem get?_row_count : (b.row column i n).get? (histogramCountKey column) = some (.int n) := by
  rw [get?_row, List.lookup_cons, beq_self_eq_true]

/-- Nothing hides the upper edge of a bin. -/
theorem get?_row_end : (b.row column i n).get? binEndKey = some (.ofFloat (b.upper i)) := by
  rw [get?_row, List.lookup_cons, beq_eq_false_iff_ne.2 (binEndKey_ne_countKey column)]
  rfl

/-- Nothing hides the lower edge of a bin. -/
theorem get?_row_start : (b.row column i n).get? binStartKey = some (.ofFloat (b.lower i)) := by
  rw [get?_row, List.lookup_cons, beq_eq_false_iff_ne.2 (binStartKey_ne_countKey column)]
  rfl

/-- Under the column stands its middle, or the edge that hides it. -/
theorem get?_row_column :
    (b.row column i n).get? column = some (.ofFloat (b.shown column i)) := by
  by_cases hend : column = binEndKey
  · subst hend
    rw [get?_row_end]
    rfl
  · by_cases hstart : column = binStartKey
    · subst hstart
      rw [get?_row_start]
      rfl
    · rw [get?_row, List.lookup_cons, beq_eq_false_iff_ne.2 (column_ne_countKey column),
        List.lookup_cons, beq_eq_false_iff_ne.2 hend, List.lookup_cons,
        beq_eq_false_iff_ne.2 hstart, List.lookup_cons, beq_self_eq_true]
      unfold shown
      rw [if_neg hend, if_neg hstart]

/-- A double as it is read back, nothing if it is not finite. -/
def finite? (x : Float) : Option Float :=
  if x.isFinite then some x else none

/-- A double is read back from its value exactly where it is finite. -/
theorem asNumber?_ofFloat (x : Float) : (Value.ofFloat x).asNumber? = finite? x := by
  unfold Value.ofFloat finite?
  split
  · rfl
  · rfl

/-- A cell of a bin is read as its double where that is finite. -/
theorem number?_row {key : String} {x : Float}
    (h : (b.row column i n).get? key = some (.ofFloat x)) :
    Row.number? (b.row column i n) key = finite? x := by
  unfold Row.number?
  rw [h]
  exact asNumber?_ofFloat x

end Binning

namespace RenderModel

open Binning in
/-- A bin is drawn unless its upper edge stands for its middle and is not finite. -/
theorem binOf_row {b : Binning} {column : String} {i n : Nat} (hmiddle : (b.middle i).isFinite) :
    (∃ bin, binOf column (b.row column i n) = .ok bin) ↔
      (column = binEndKey → (b.upper i).isFinite) := by
  have hlower : (b.lower i).isFinite := Double.isFinite_of_add hmiddle
  have hcount : Row.number? (b.row column i n) (histogramCountKey column) =
      some (Float.ofInt n) := by
    unfold Row.number?
    rw [get?_row_count]
    rfl
  have hstart := number?_row b column i n (get?_row_start b column i n)
  have hstop := number?_row b column i n (get?_row_end b column i n)
  have hshown := number?_row b column i n (get?_row_column b column i n)
  unfold binOf
  simp only [hcount, hstart, hstop, hshown]
  by_cases hfinite : (b.shown column i).isFinite
  · have hx : finite? (b.shown column i) = some (b.shown column i) := if_pos hfinite
    simp only [hx, Option.some_or]
    constructor
    · rintro - rfl
      exact hfinite
    · intro _
      exact ⟨_, rfl⟩
  · have hend : column = binEndKey := by
      by_contra hne
      unfold Binning.shown at hfinite
      rw [if_neg hne] at hfinite
      split at hfinite
      · exact hfinite hlower
      · exact hfinite hmiddle
    have hupper : ¬ (b.upper i).isFinite := by
      subst hend
      exact hfinite
    have hx : finite? (b.shown column i) = none := if_neg hfinite
    have hu : finite? (b.upper i) = none := if_neg hupper
    have hl : finite? (b.lower i) = some (b.lower i) := if_pos hlower
    simp only [hx, hu, hl, Option.none_or]
    constructor
    · rintro ⟨bin, hbin⟩
      cases hbin
    · intro h
      exact absurd (h hend) hupper

/-- A histogram is drawn exactly if all its bins are. -/
theorem ofResponse_histogram (displayCap : Nat) {s : Spec} {r : Response}
    (hkind : s.kind = .histogram) {column : String} (hcolumn : s.valueColumn = some column)
    (hne : r.rows ≠ []) :
    (∃ m, ofResponse displayCap s.kind s r = .ok m ∧ m.kind = s.kind) ↔
      ∀ row ∈ r.rows, ∃ bin, binOf column row = .ok bin := by
  have hdrawn : ofResponse displayCap s.kind s r = histogramOf s r.rows := by
    unfold ofResponse
    rw [Response.isEmpty_eq_false hne, if_neg Bool.false_ne_true, hkind]
  rw [hdrawn]
  constructor
  · rintro ⟨m, hm, -⟩ row hrow
    obtain ⟨column', hcolumn', hrest⟩ := bind_eq_ok.1 hm
    have hsame : column' = column :=
      Option.some.inj ((Spec.needed_eq_ok.1 hcolumn').symm.trans hcolumn)
    subst hsame
    obtain ⟨bins, hbins, -⟩ := bind_eq_ok.1 hrest
    obtain ⟨bin, -, hbin⟩ := mapM_ok_mem hbins hrow
    exact ⟨bin, hbin⟩
  · intro hall
    obtain ⟨bins, hbins⟩ := mapM_total hall
    refine ⟨_, bind_eq_ok.2 ⟨column, Spec.needed_eq_ok.2 hcolumn, bind_eq_ok.2
      ⟨bins, hbins, rfl⟩⟩, ?_⟩
    rw [hkind]
    rfl

end RenderModel

end Chartboard
