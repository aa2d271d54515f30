import Chartboard.Text.Blank
import Mathlib.Data.List.DropRight
import Mathlib.Data.List.TakeWhile

/-!
# Trimmed texts

Trimming takes nothing from a text that neither begins nor ends with a blank, so it does nothing the
second time, and what is left of a text is empty only if there were blanks alone.
-/

namespace Chartboard.Text

/-- No digit is a blank. -/
theorem not_isBlank_of_isDigit {c : Char} (h : c.isDigit) : isBlank c = false := by
  have hval : 48 ≤ c.toNat ∧ c.toNat ≤ 57 := by
    simp only [Char.isDigit, Bool.and_eq_true, decide_eq_true_eq] at h
    exact ⟨UInt32.le_iff_toNat_le.1 h.1, UInt32.le_iff_toNat_le.1 h.2⟩
  unfold isBlank CodeRanges.has blankRanges
  simp only [List.any_cons, List.any_nil, Bool.or_eq_false_iff, Bool.and_eq_false_iff,
    decide_eq_false_iff_not, and_true]
  omega

/-- Characters of which none is blank are not trimmed. -/
theorem trimChars_of_forall {cs : List Char} (h : ∀ c ∈ cs, isBlank c = false) :
    trimChars cs = cs := by
  have hdrop : ∀ ds : List Char, (∀ c ∈ ds, isBlank c = false) → ds.dropWhile isBlank = ds := by
    intro ds hds
    cases ds with
    | nil => rfl
    | cons d rest => rw [List.dropWhile_cons_of_neg (by simp [hds d List.mem_cons_self])]
  unfold trimChars
  rw [hdrop cs h, hdrop cs.reverse fun c hc => h c (List.mem_reverse.1 hc), List.reverse_reverse]

/-- A text without any blank is trimmed. -/
theorem trim_of_forall {s : String} (h : ∀ c ∈ s.toList, isBlank c = false) : trim s = s := by
  unfold trim
  rw [trimChars_of_forall h, String.ofList_toList]

/-- What is trimmed stays as it is. -/
theorem trimChars_trimChars (cs : List Char) : trimChars (trimChars cs) = trimChars cs := by
  have hback : ∀ ds : List Char, trimChars ds = (ds.dropWhile isBlank).rdropWhile isBlank :=
    fun _ => rfl
  have hfront : (trimChars cs).dropWhile isBlank = trimChars cs := by
    obtain ⟨tail, hprefix⟩ : trimChars cs <+: cs.dropWhile isBlank := List.rdropWhile_prefix _ _
    cases hrest : trimChars cs with
    | nil => rfl
    | cons c rest =>
      have hnone := List.dropWhile_eq_self_iff.1 (List.dropWhile_idempotent isBlank cs)
      simp only [← hprefix, hrest, List.cons_append] at hnone
      exact List.dropWhile_cons_of_neg (hnone (Nat.zero_lt_succ _))
  rw [hback (trimChars cs), hfront, hback cs, List.rdropWhile_idempotent]

/-- A trimmed text is not trimmed further. -/
theorem trim_trim (s : String) : trim (trim s) = trim s := by
  unfold trim
  rw [String.toList_ofList, trimChars_trimChars]

/-- Trimming leaves nothing exactly of blanks. -/
theorem trimChars_eq_nil_iff {cs : List Char} : trimChars cs = [] ↔ cs.all isBlank := by
  have hback : trimChars cs = [] ↔ ∀ c ∈ cs.dropWhile isBlank, isBlank c :=
    List.rdropWhile_eq_nil_iff
  rw [hback, List.all_eq_true]
  constructor
  · intro h
    rw [← List.dropWhile_eq_nil_iff]
    by_contra hne
    have hhead := List.head_dropWhile_not isBlank hne
    rw [h _ (List.head_mem hne)] at hhead
    cases hhead
  · intro h c hc
    exact h c ((List.dropWhile_sublist isBlank).subset hc)

/-- A text is blank if nothing is left of it. -/
theorem trim_eq_empty_iff {s : String} : trim s = "" ↔ isBlankText s := by
  unfold trim isBlankText
  rw [← trimChars_eq_nil_iff, String.ofList_eq_empty_iff]

end Chartboard.Text
