import Chartboard.Dashboard.Uuid
import Mathlib.Data.Nat.ModEq

/-!
# Identifiers read back

An identifier is read back from its written form: the hyphens stand where they are looked for, and
the digits between them are those of its number.
-/

namespace Chartboard.Uuid

/-! ## Digits -/

/-- One more digit is that of the remainder, behind the digits of the quotient. -/
theorem hexDigits_succ (width n : Nat) :
    hexDigits (width + 1) n = hexDigits width (n / 16) ++ [(n % 16).digitChar] := by
  rw [hexDigits, Nat.toDigits_of_lt_base (Nat.mod_lt n (by decide))]

/-- There are as many digits as are asked for. -/
theorem length_hexDigits (width n : Nat) : (hexDigits width n).length = width := by
  induction width generalizing n with
  | zero => rfl
  | succ width ih => rw [hexDigits_succ, List.length_append, ih, List.length_singleton]

/-- A hexadecimal digit is read as the number it was written for. -/
theorem hexValue?_digitChar {d : Nat} (h : d < 16) : hexValue? d.digitChar = some d := by
  have hdigit : ∀ d < 16, hexValue? d.digitChar = some d := by decide
  exact hdigit d h

/-- The last digits of a number are read as what is left of it. -/
theorem hexNumber?_hexDigits (width n : Nat) :
    hexNumber? (hexDigits width n) = some (n % 16 ^ width) := by
  induction width generalizing n with
  | zero =>
    rw [pow_zero, Nat.mod_one]
    rfl
  | succ width ih =>
    have hfront := ih (n / 16)
    unfold hexNumber? at hfront ⊢
    have hdigit : hexValue? (n % 16).digitChar = some (n % 16) :=
      hexValue?_digitChar (Nat.mod_lt n (by decide))
    have hmod : n % 16 ^ (width + 1) = n / 16 % 16 ^ width * 16 + n % 16 := by
      rw [pow_succ', Nat.mod_mul, Nat.mul_comm, Nat.add_comm]
    rw [hexDigits_succ, List.foldlM_append, hfront, hmod]
    simp [hdigit]

/-- Every character of the digits is a hexadecimal digit. -/
theorem exists_digit {width n : Nat} {c : Char} (h : c ∈ hexDigits width n) :
    ∃ d < 16, c = d.digitChar := by
  induction width generalizing n with
  | zero => cases h
  | succ width ih =>
    rw [hexDigits_succ] at h
    rcases List.mem_append.1 h with h | h
    · exact ih h
    · exact ⟨n % 16, Nat.mod_lt n (by decide), List.mem_singleton.1 h⟩

/-! ## Hyphens -/

/-- A group and the digits behind it. -/
theorem take_append_drop_add (digits : List Char) (start width : Nat) :
    (digits.drop start).take width ++ digits.drop (start + width) = digits.drop start := by
  rw [← List.drop_drop, List.take_append_drop]

/-- The groups together are the digits. -/
theorem groups_append (digits : List Char) :
    digits.take 8 ++ ((digits.drop 8).take 4 ++ ((digits.drop 12).take 4
      ++ ((digits.drop 16).take 4 ++ digits.drop 20))) = digits := by
  rw [take_append_drop_add digits 16 4, take_append_drop_add digits 12 4,
    take_append_drop_add digits 8 4, List.take_append_drop]

/-- The hyphens are found where they were put. -/
theorem unhyphenate?_hyphenate {digits : List Char} (h : digits.length = 32) :
    unhyphenate? (hyphenate digits) = some digits := by
  have hgroups := groups_append digits
  simpa [unhyphenate?, hyphenate, List.take_append, List.drop_append, List.drop_take, h]
    using hgroups

/-- The digits and four hyphens are thirty-six characters. -/
theorem length_hyphenate {digits : List Char} (h : digits.length = 32) :
    (hyphenate digits).length = 36 := by
  simp [hyphenate, h]

/-! ## Texts -/

/-- A text that begins with a digit stands neither in braces nor behind a name. -/
theorem unwrap_of_digit {d : Nat} (h : d < 16) (cs : List Char) :
    unwrap (d.digitChar :: cs) = d.digitChar :: cs := by
  have hdigit : ∀ d < 16, d.digitChar ≠ '\x7b' ∧ d.digitChar.toLower ≠ 'u' := by decide
  obtain ⟨hbrace, hname⟩ := hdigit d h
  have hbraced : isBraced (d.digitChar :: cs) = false := by
    simp [isBraced, hbrace]
  have hnamed : isNamed (d.digitChar :: cs) = false := by
    have hspace : nameSpace = 'u' :: "rn:uuid:".toList := rfl
    simp [isNamed, hspace, hname]
  rw [unwrap, if_neg (by simp [hbraced]), if_neg (by simp [hnamed])]

/-- The hyphenated form has nothing around it. -/
theorem unwrap_hyphenate (n : Nat) :
    unwrap (hyphenate (hexDigits 32 n)) = hyphenate (hexDigits 32 n) := by
  cases hdigits : hexDigits 32 n with
  | nil =>
    have hlength := length_hexDigits 32 n
    rw [hdigits] at hlength
    cases hlength
  | cons c rest =>
    have hc : c ∈ hexDigits 32 n := by
      rw [hdigits]
      exact List.mem_cons_self
    obtain ⟨d, hd, rfl⟩ := exists_digit hc
    exact unwrap_of_digit hd _

/-- An identifier is read back from its text. -/
theorem ofText_text (u : Uuid) : ofText u.text = .ok u := by
  have hlength : (hexDigits 32 u.bits.toNat).length = 32 := length_hexDigits 32 _
  have hnumber : u.bits.toNat % 16 ^ 32 = u.bits.toNat := Nat.mod_eq_of_lt u.bits.isLt
  have hread : ofText? u.text = some u := by
    have hlong : (hyphenate (hexDigits 32 u.bits.toNat)).length ≠ 32 := by
      rw [length_hyphenate hlength]
      decide
    rw [ofText?, text, String.toList_ofList, unwrap_hyphenate]
    dsimp only
    rw [if_neg hlong, unhyphenate?_hyphenate hlength, Option.bind_eq_bind, Option.bind_some,
      hexNumber?_hexDigits, hnumber, Option.bind_eq_bind, Option.bind_some, Option.pure_def, ofNat,
      BitVec.ofNat_toNat, BitVec.setWidth_eq]
  rw [ofText, hread]

end Chartboard.Uuid
