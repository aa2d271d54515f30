import Chartboard.Json.Printer
import Chartboard.Json.Tree
import Mathlib.Tactic.SplitIfs

/-!
# Quoted texts read back

Every character of a quoted text is read back from what it is written as, whatever follows. A
quoted text therefore determines the string in it and the place where it ends.
-/

namespace Chartboard.Json

/-- The piece as which a written character is read. -/
def escapedPiece (c : Char) : Piece :=
  if c.toNat < 0x20 ∧ c ∉ ['\x08', '\x09', '\x0a', '\x0c', '\x0d'] then .unit c.toNat else .char c

/-- A hexadecimal digit is read as the number it was written for. -/
theorem hexValue?_hexDigit (n : Nat) : hexValue? (hexDigit n) = some (n % 16) := by
  have hdigit : ∀ d < 16, hexValue? ((Nat.toDigits 16 d).headD '0') = some d := by decide
  exact hdigit (n % 16) (Nat.mod_lt n (by decide))

/-- A plain character is read as itself. -/
theorem lexPieces_plain {c : Char} (hquote : c ≠ '"') (hslash : c ≠ '\\') (h : ¬ c.toNat < 0x20)
    (rest : List Char) :
    lexPieces (c :: rest) = (.char c :: (lexPieces rest).1, (lexPieces rest).2) := by
  rw [lexPieces]
  · simp [h]
  · simp [hquote]
  · simp [hslash]
  · simp [hslash]
  · simp [hslash]
  · simp [hslash]

/-- An escaped unit is read by its two hexadecimal digits. -/
theorem lexPieces_unit {n : Nat} (h : n < 0x100) (rest : List Char) :
    lexPieces ('\\' :: 'u' :: '0' :: '0' :: hexDigit (n / 16) :: hexDigit n :: rest) =
      (.unit n :: (lexPieces rest).1, (lexPieces rest).2) := by
  have hzero : hexValue? '0' = some 0 := by decide
  have hvalue : ((0 * 16 + 0) * 16 + n / 16 % 16) * 16 + n % 16 = n := by omega
  rw [lexPieces]
  simp only [hzero, hexValue?_hexDigit, hvalue]

/-- A written character is read as one piece. -/
theorem lexPieces_escapeChar (c : Char) (rest : List Char) :
    lexPieces (escapeChar c ++ rest) =
      (escapedPiece c :: (lexPieces rest).1, (lexPieces rest).2) := by
  unfold escapeChar
  split_ifs with hquote hslash hback htab hline hform hreturn hcontrol
  · subst hquote
    simp [lexPieces, shortEscape?, escapedPiece]
  · subst hslash
    simp [lexPieces, shortEscape?, escapedPiece]
  · subst hback
    simp [lexPieces, shortEscape?, escapedPiece]
  · subst htab
    simp [lexPieces, shortEscape?, escapedPiece]
  · subst hline
    simp [lexPieces, shortEscape?, escapedPiece]
  · subst hform
    simp [lexPieces, shortEscape?, escapedPiece]
  · subst hreturn
    simp [lexPieces, shortEscape?, escapedPiece]
  · have hpiece : escapedPiece c = .unit c.toNat := by
      simp [escapedPiece, hcontrol, hback, htab, hline, hform, hreturn]
    rw [hpiece]
    exact lexPieces_unit (by omega) rest
  · have hpiece : escapedPiece c = .char c := by
      simp [escapedPiece, hcontrol]
    rw [hpiece]
    exact lexPieces_plain hquote hslash hcontrol rest

/-- A text between quotes is read character by character up to the closing quote. -/
theorem lexPieces_escaped (cs rest : List Char) :
    lexPieces (cs.flatMap escapeChar ++ '"' :: rest) = (cs.map escapedPiece, .ok rest) := by
  induction cs with
  | nil => rw [List.flatMap_nil, List.nil_append, lexPieces, List.map_nil]
  | cons c cs ih =>
    rw [List.flatMap_cons, List.append_assoc, lexPieces_escapeChar, ih, List.map_cons]

/-- Escaped characters stand for themselves. -/
theorem denote_escaped (cs : List Char) : denote (cs.map escapedPiece) = .chars cs := by
  induction cs with
  | nil => rfl
  | cons c cs ih =>
    rw [List.map_cons, denote.eq_def]
    by_cases hcontrol : c.toNat < 0x20 ∧ c ∉ ['\x08', '\x09', '\x0a', '\x0c', '\x0d']
    · have hpiece : escapedPiece c = .unit c.toNat := if_pos hcontrol
      rw [hpiece]
      simp only
      rw [if_pos (Or.inl (by omega)), ih, Char.ofNat_toNat]
      rfl
    · have hpiece : escapedPiece c = .char c := if_neg hcontrol
      rw [hpiece]
      simp only
      rw [ih]
      rfl

/-- A quoted text denotes the string that was written, and reading goes on behind it. -/
theorem lexString_quoted (s : String) (rest : List Char) :
    lexString (s.toList.flatMap escapeChar ++ '"' :: rest) = .ok (.ok s, rest) := by
  unfold lexString
  rw [lexPieces_escaped]
  simp only [denote_escaped, String.ofList_toList]

/-- A quoted text determines its string and its end. -/
theorem quote_append_inj {s s' : String} {rest rest' : List Char}
    (h : quote s ++ rest = quote s' ++ rest') : s = s' ∧ rest = rest' := by
  unfold quote at h
  simp only [List.cons_append, List.append_assoc, List.nil_append, List.cons.injEq, true_and] at h
  have hread := congrArg lexString h
  rw [lexString_quoted, lexString_quoted] at hread
  cases hread
  exact ⟨rfl, rfl⟩

end Chartboard.Json
