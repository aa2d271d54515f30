import Chartboard.Decimal.Text
import Chartboard.Proofs.Decimal.Finite
import Chartboard.Proofs.Text.Trimming
import Mathlib.Algebra.Group.Nat.Defs

/-!
# Numbers read back from their digits

The digits of a natural number read as that number, and the text of an integer reads as a double. A
text that is read as an integer of 64 bits is equal to it when it is read as a double.
-/

namespace Chartboard

namespace Decimal

/-- Digits are read as the library reads them to the base ten. -/
theorem ofDigits_eq_ofDigitChars (digits : List Char) :
    ofDigits digits = Nat.ofDigitChars 10 digits 0 := by
  unfold ofDigits
  rw [Nat.ofDigitChars_eq_foldl]
  congr 1
  funext n c
  rw [Nat.mul_comm]

/-- The digits of a number are read as the number. -/
@[simp] theorem ofDigits_toDigits (n : Nat) : ofDigits (Nat.toDigits 10 n) = n := by
  rw [ofDigits_eq_ofDigitChars, Nat.ofDigitChars_ten_toDigits]

/-- Further digits move the ones in front to the left. -/
theorem ofDigits_append (left right : List Char) :
    ofDigits (left ++ right) = ofDigits left * 10 ^ right.length + ofDigits right := by
  simp only [ofDigits_eq_ofDigitChars]
  rw [Nat.ofDigitChars_append, Nat.ofDigitChars_eq_ofDigitChars_zero, Nat.mul_comm]

/-- The digits of a number are digits. -/
theorem isDigit_toDigits {n : Nat} {c : Char} (h : c ∈ Nat.toDigits 10 n) : c.isDigit :=
  Nat.isDigit_of_mem_toDigits (by decide) (by decide) h

/-- A text that begins with a digit has no sign. -/
theorem splitSign_of_isDigit {c : Char} (h : c.isDigit) (rest : List Char) :
    splitSign (c :: rest) = (false, c :: rest) := by
  unfold splitSign
  split
  · rename_i heq
    cases heq
    exact absurd h (by decide)
  · rename_i heq
    cases heq
    exact absurd h (by decide)
  · rfl

/-- Digits alone are a natural number. -/
theorem ofChars?_of_digits {digits : List Char} (hne : digits ≠ [])
    (h : ∀ c ∈ digits, c.isDigit) : ofChars? digits = some ⟨ofDigits digits, 0⟩ := by
  have hwhole : digits.takeWhile Char.isDigit = digits := List.takeWhile_eq_self_iff.2 h
  have hrest : digits.dropWhile Char.isDigit = [] := List.dropWhile_eq_nil_iff.2 h
  unfold ofChars?
  simp only [hwhole, hrest]
  rw [if_neg (by simp [hne])]
  simp [exponent?]

/-- The digits of a number have no sign in front. -/
theorem splitSign_toDigits (n : Nat) :
    splitSign (Nat.toDigits 10 n) = (false, Nat.toDigits 10 n) := by
  cases hdigits : Nat.toDigits 10 n with
  | nil => exact absurd hdigits Nat.toDigits_ne_nil
  | cons c rest =>
    have hc : c ∈ Nat.toDigits 10 n := by rw [hdigits]; exact List.mem_cons_self
    exact splitSign_of_isDigit (isDigit_toDigits hc) rest

/-- The digits of a number are read as a decimal without exponent. -/
theorem ofChars?_toDigits (n : Nat) : ofChars? (Nat.toDigits 10 n) = some ⟨n, 0⟩ := by
  rw [ofChars?_of_digits Nat.toDigits_ne_nil fun c hc => isDigit_toDigits hc, ofDigits_toDigits]

end Decimal

/-- An integer is written as the digits of its magnitude, behind a minus if it is negative. -/
theorem toList_toString_int (i : Int) :
    (toString i).toList =
      if i < 0 then '-' :: Nat.toDigits 10 i.natAbs else Nat.toDigits 10 i.natAbs := by
  rw [Int.toString_eq_repr, Int.repr_eq_if]
  by_cases h : i < 0
  · have habs : (-i).toNat = i.natAbs := by omega
    rw [if_neg (by omega), if_pos h, habs, String.toList_append, Nat.toList_repr]
    rfl
  · have habs : i.toNat = i.natAbs := by omega
    rw [if_pos (by omega), if_neg h, habs, Nat.toList_repr]

/-- The text of an integer is trimmed. -/
theorem trim_toString_int (i : Int) : Text.trim (toString i) = toString i := by
  apply Text.trim_of_forall
  intro c hc
  rw [toList_toString_int] at hc
  split at hc
  · rcases List.mem_cons.1 hc with rfl | hc
    · decide
    · exact Text.not_isBlank_of_isDigit (Decimal.isDigit_toDigits hc)
  · exact Text.not_isBlank_of_isDigit (Decimal.isDigit_toDigits hc)

/-- The text of an integer is a minus, if there is one, and the digits of its magnitude. -/
theorem splitSign_toString_int (i : Int) :
    Decimal.splitSign (toString i).toList = (decide (i < 0), Nat.toDigits 10 i.natAbs) := by
  rw [toList_toString_int]
  by_cases h : i < 0
  · rw [if_pos h, decide_eq_true h]
    rfl
  · rw [if_neg h, decide_eq_false h, Decimal.splitSign_toDigits]

/-- No two integers have the same text. -/
theorem toString_int_injective {i j : Int} (h : toString i = toString j) : i = j := by
  have hsplit := congrArg (fun text => Decimal.splitSign text.toList) h
  simp only [splitSign_toString_int, Prod.mk.injEq, decide_eq_decide] at hsplit
  obtain ⟨hsign, hdigits⟩ := hsplit
  have habs := congrArg Decimal.ofDigits hdigits
  rw [Decimal.ofDigits_toDigits, Decimal.ofDigits_toDigits] at habs
  omega

/-- The text of an integer reads as the double next to its magnitude, with its sign. -/
theorem Double.ofText?_toString_int (i : Int) :
    Double.ofText? (toString i) =
      some (if i < 0 then -(Decimal.toFloat ⟨i.natAbs, 0⟩) else Decimal.toFloat ⟨i.natAbs, 0⟩) := by
  unfold Double.ofText?
  rw [splitSign_toString_int]
  simp only [Decimal.ofChars?_toDigits, Option.map_some, decide_eq_true_eq]

/-! ## Integers of 64 bits -/

namespace Double

/-- A natural number of 64 bits has few digits, so it is rounded to the nearest double. -/
theorem toFloat_of_le {n : Nat} (hne : n ≠ 0) (hle : n ≤ 0x8000000000000000) :
    Decimal.toFloat ⟨n, 0⟩ = Float.ofNat n := by
  have hwidth : Decimal.width n ≤ 19 :=
    (Nat.length_toDigits_le_iff (by decide) (by decide)).2 (by omega)
  unfold Decimal.toFloat
  dsimp only
  rw [if_neg (by omega), if_neg (by omega)]
  rfl

/-- A sign and a natural number of 64 bits are equal as an integer and as a double. They are not the
same double only if the number is zero and the sign is a minus. -/
theorem ofInt_beq_signed (negative : Bool) {n : Nat} (hle : n ≤ 0x8000000000000000) :
    (Float.ofInt (if negative then -(n : Int) else n) ==
      if negative then -(Decimal.toFloat ⟨n, 0⟩) else Decimal.toFloat ⟨n, 0⟩) = true := by
  cases n with
  | zero =>
    cases negative with
    | false => decide +kernel
    | true => decide +kernel
  | succ k =>
    rw [toFloat_of_le (Nat.succ_ne_zero k) hle]
    cases negative with
    | false => exact beq_self (isNaN_ofInt (Int.ofNat (k + 1)))
    | true => exact beq_self (isNaN_ofInt (Int.negSucc k))

/-- An integer of 64 bits is a sign, if there is one, and digits. -/
theorem int64OfText?_eq_some {s : String} {i : Int} (h : int64OfText? s = some i) :
    ∃ negative digits, Decimal.splitSign s.toList = (negative, digits) ∧ digits ≠ [] ∧
      (∀ c ∈ digits, c.isDigit) ∧ Decimal.ofDigits digits ≤ 0x8000000000000000 ∧
      i = if negative then -(Decimal.ofDigits digits : Int) else Decimal.ofDigits digits := by
  unfold int64OfText? at h
  cases hsplit : Decimal.splitSign s.toList with
  | mk negative digits =>
    rw [hsplit] at h
    simp only [Option.ite_none_right_eq_some] at h
    obtain ⟨⟨hne, hdigits⟩, hrange, hi⟩ := h
    refine ⟨negative, digits, rfl, hne, List.all_eq_true.1 hdigits, ?_, (Option.some.inj hi).symm⟩
    cases negative with
    | false => omega
    | true => omega

/-- The text of an integer is that of a double as well, and the two numbers are equal. -/
theorem ofText?_of_int64OfText? {s : String} {i : Int} (h : int64OfText? s = some i) :
    ∃ x, ofText? s = some x ∧ (Float.ofInt i == x) = true := by
  obtain ⟨negative, digits, hsplit, hne, hdigits, hle, rfl⟩ := int64OfText?_eq_some h
  refine ⟨_, ?_, ofInt_beq_signed negative hle⟩
  unfold ofText?
  rw [hsplit]
  simp only [Decimal.ofChars?_of_digits hne hdigits, Option.map_some]

end Double

end Chartboard
