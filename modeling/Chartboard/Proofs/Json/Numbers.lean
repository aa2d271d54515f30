import Chartboard.Proofs.Json.Scalars

/-!
# Written numbers read back

A number is read up to the first character that cannot go on with it. So a number that is read back
when its text stands alone is read back wherever its text stands, as long as none of the characters
that go on with a number follows. Every integer is read back; a double is read from its digits in
double arithmetic, so whether it is read back is a question of its own.
-/

namespace Chartboard.Json

open Decimal (isNumeral isNumeral_of_isDigit)

/-- No number goes on here: the text ends, or a character follows that no number goes on with. -/
def endsNumber : List Char → Bool
  | [] => true
  | c :: _ => !(c.isDigit || c == '.' || c == 'e' || c == 'E')

/-- A character that ends a number goes on with none of its parts. -/
theorem endsNumber_cons {c : Char} {rest : List Char} (h : endsNumber (c :: rest)) :
    c.isDigit = false ∧ c ≠ '.' ∧ c ≠ 'e' ∧ c ≠ 'E' := by
  simpa [endsNumber, and_assoc] using h

/-! ## Where a number ends -/

section Lexing

variable {l l' : Literal} {negative : Bool} {cs rest left : List Char}

/-- A digit in front is taken. -/
theorem takeDigits_of_isDigit {c : Char} (hc : c.isDigit = true) (cs : List Char) :
    takeDigits (c :: cs) = ((c.toNat - '0'.toNat) :: (takeDigits cs).1, (takeDigits cs).2) := by
  rw [takeDigits, List.takeWhile_cons_of_pos hc, List.dropWhile_cons_of_pos hc]
  rfl

/-- Nothing is taken where no digit is in front. -/
theorem takeDigits_of_not_isDigit {c : Char} (hc : c.isDigit = false) (cs : List Char) :
    takeDigits (c :: cs) = ([], c :: cs) := by
  have hnot : ¬ c.isDigit = true := by rw [hc]; exact Bool.false_ne_true
  rw [takeDigits, List.takeWhile_cons_of_neg hnot, List.dropWhile_cons_of_neg hnot]
  rfl

/-- Digits end where no number goes on. -/
theorem takeDigits_append (hrest : endsNumber rest) (cs : List Char) :
    takeDigits (cs ++ rest) = ((takeDigits cs).1, (takeDigits cs).2 ++ rest) := by
  induction cs with
  | nil =>
    cases rest with
    | nil => rfl
    | cons c others => exact takeDigits_of_not_isDigit (endsNumber_cons hrest).1 others
  | cons c cs ih =>
    rw [List.cons_append]
    cases hc : c.isDigit with
    | true => rw [takeDigits_of_isDigit hc, takeDigits_of_isDigit hc, ih]
    | false => rw [takeDigits_of_not_isDigit hc, takeDigits_of_not_isDigit hc, List.cons_append]

/-- What is left behind the digits is the end of the text. -/
theorem takeDigits_suffix (cs : List Char) : (takeDigits cs).2 <:+ cs :=
  List.dropWhile_suffix _

/-- The sign of an exponent, and the text behind it. -/
def exponentSign : List Char → Bool × List Char
  | '+' :: rest => (false, rest)
  | '-' :: rest => (true, rest)
  | rest => (false, rest)

/-- An exponent is an integer of its own. -/
theorem lexExponent_of_mark {c : Char} (hc : c = 'e' ∨ c = 'E') (l : Literal) (cs : List Char) :
    lexExponent l (c :: cs) =
      let sign := (exponentSign cs).1
      let (digits, rest) := takeDigits (exponentSign cs).2
      if digits.isEmpty then .error (numberBreach rest)
      else
        let size : Nat := digits.foldl (fun n d => n * 10 + d) 0
        .ok ({ l with exponent := some (if sign then -(size : Int) else size) }, rest) := by
  rw [lexExponent.eq_def]
  dsimp only
  rw [if_pos hc]
  split
  · rfl
  · rfl
  · next hplus hminus =>
    have hsign : exponentSign cs = (false, cs) := by
      rw [exponentSign]
      · exact hplus
      · exact hminus
    rw [hsign]

/-- Without the mark of an exponent there is none. -/
theorem lexExponent_of_not_mark {c : Char} (hc : ¬(c = 'e' ∨ c = 'E')) (l : Literal)
    (cs : List Char) : lexExponent l (c :: cs) = .ok (l, c :: cs) := by
  rw [lexExponent.eq_def]
  dsimp only
  rw [if_neg hc]

/-- The sign of an exponent is read without regard to what comes later. -/
theorem exponentSign_append (hcs : cs ≠ []) (rest : List Char) :
    exponentSign (cs ++ rest) = ((exponentSign cs).1, (exponentSign cs).2 ++ rest) := by
  obtain ⟨c, cs, rfl⟩ := List.exists_cons_of_ne_nil hcs
  rw [List.cons_append]
  unfold exponentSign
  split
  · next h => cases h; rfl
  · next h => cases h; rfl
  · next hplus hminus =>
    split
    · next h => cases h; exact absurd rfl (hplus _)
    · next h => cases h; exact absurd rfl (hminus _)
    · rfl

/-- What is left behind the sign is the end of the text. -/
theorem exponentSign_suffix (cs : List Char) : (exponentSign cs).2 <:+ cs := by
  unfold exponentSign
  split
  · exact List.suffix_cons _ _
  · exact List.suffix_cons _ _
  · exact List.suffix_rfl

/-- An exponent ends where no number goes on. -/
theorem lexExponent_append (hrest : endsNumber rest) (h : lexExponent l cs = .ok (l', left)) :
    lexExponent l (cs ++ rest) = .ok (l', left ++ rest) := by
  cases cs with
  | nil =>
    cases h
    cases rest with
    | nil => rfl
    | cons c others =>
      obtain ⟨-, -, he, hE⟩ := endsNumber_cons hrest
      rw [List.nil_append, lexExponent_of_not_mark (not_or.2 ⟨he, hE⟩)]
  | cons c cs =>
    by_cases hc : c = 'e' ∨ c = 'E'
    · have hcs : cs ≠ [] := by
        rintro rfl
        rw [lexExponent_of_mark hc] at h
        cases h
      rw [lexExponent_of_mark hc] at h
      rw [List.cons_append, lexExponent_of_mark hc, exponentSign_append hcs,
        takeDigits_append hrest]
      dsimp only at h ⊢
      split at h
      · cases h
      · next hdigits =>
        cases h
        rw [if_neg hdigits]
    · rw [lexExponent_of_not_mark hc] at h
      cases h
      rw [List.cons_append, lexExponent_of_not_mark hc]

/-- What is left behind an exponent is the end of the text. -/
theorem lexExponent_suffix (h : lexExponent l cs = .ok (l', left)) : left <:+ cs := by
  cases cs with
  | nil =>
    cases h
    exact List.suffix_rfl
  | cons c cs =>
    by_cases hc : c = 'e' ∨ c = 'E'
    · rw [lexExponent_of_mark hc] at h
      dsimp only at h
      split at h
      · cases h
      · cases h
        exact ((takeDigits_suffix _).trans (exponentSign_suffix cs)).trans (List.suffix_cons c cs)
    · rw [lexExponent_of_not_mark hc] at h
      cases h
      exact List.suffix_rfl

/-- A fraction ends where no number goes on. -/
theorem lexFraction_append (hrest : endsNumber rest) (h : lexFraction l cs = .ok (l', left)) :
    lexFraction l (cs ++ rest) = .ok (l', left ++ rest) := by
  by_cases hpoint : ∃ fraction, cs = '.' :: fraction
  · obtain ⟨fraction, rfl⟩ := hpoint
    rw [lexFraction] at h
    rw [List.cons_append, lexFraction, takeDigits_append hrest]
    dsimp only at h ⊢
    split at h
    · cases h
    · next hdigits =>
      rw [if_neg hdigits]
      exact lexExponent_append hrest h
  · have hleft : lexFraction l cs = lexExponent l cs := by
      rw [lexFraction]
      exact fun fraction heq => hpoint ⟨fraction, heq⟩
    have hright : lexFraction l (cs ++ rest) = lexExponent l (cs ++ rest) := by
      rw [lexFraction]
      intro fraction heq
      cases cs with
      | nil =>
        rw [List.nil_append] at heq
        rw [heq] at hrest
        cases hrest
      | cons c cs =>
        rw [List.cons_append] at heq
        cases heq
        exact hpoint ⟨cs, rfl⟩
    rw [hright]
    exact lexExponent_append hrest (hleft ▸ h)

/-- What is left behind a fraction is the end of the text. -/
theorem lexFraction_suffix (h : lexFraction l cs = .ok (l', left)) : left <:+ cs := by
  unfold lexFraction at h
  split at h
  · dsimp only at h
    split at h
    · cases h
    · exact ((lexExponent_suffix h).trans (takeDigits_suffix _)).trans (List.suffix_cons _ _)
  · exact lexExponent_suffix h

/-- A number ends where no number goes on. -/
theorem lexNumber_append (hrest : endsNumber rest)
    (h : lexNumber negative cs = .ok (l', left)) :
    lexNumber negative (cs ++ rest) = .ok (l', left ++ rest) := by
  unfold lexNumber at h ⊢
  rw [takeDigits_append hrest]
  dsimp only at h ⊢
  split at h
  · cases h
  · exact lexFraction_append hrest h
  · cases h
  · exact lexFraction_append hrest h

/-- What is left behind a number is the end of the text. -/
theorem lexNumber_suffix (h : lexNumber negative cs = .ok (l', left)) : left <:+ cs := by
  unfold lexNumber at h
  dsimp only at h
  split at h
  · cases h
  · exact (lexFraction_suffix h).trans (takeDigits_suffix cs)
  · cases h
  · exact (lexFraction_suffix h).trans (takeDigits_suffix cs)

end Lexing

/-! ## Numbers that are read back -/

/-- The number is read back as itself from what it is written as. -/
def Number.ReadsBack (n : Number) : Prop :=
  Tree.ofText n.text = (.number n, true)

namespace Tree

variable {cs rest : List Char}

/-- The number that a tree is. -/
def number? : Tree → Option Number
  | number n => some n
  | _ => none

/-- A tree is read as a number only if it is one. -/
theorem number?_eq_some {t : Tree} {n : Number} : t.number? = some n ↔ t = number n := by
  constructor
  · intro h
    cases t with
    | number m => exact congrArg number (Option.some.inj h)
    | _ => cases h
  · rintro rfl
    rfl

instance (n : Number) : Decidable n.ReadsBack :=
  decidable_of_iff ((ofText n.text).1.number? = some n ∧ (ofText n.text).2 = true)
    (by rw [number?_eq_some, Number.ReadsBack, Prod.ext_iff])

/-- Characters of numbers are no blanks. -/
theorem isBlank_of_isNumeral {c : Char} (h : isNumeral c) : isBlank c = false := by
  have hspace : c ≠ ' ' := by rintro rfl; cases h
  have hline : c ≠ '\n' := by rintro rfl; cases h
  have htab : c ≠ '\t' := by rintro rfl; cases h
  have hreturn : c ≠ '\r' := by rintro rfl; cases h
  simp [isBlank, hspace, hline, htab, hreturn]

/-- Nothing is skipped where no blank is in front. -/
theorem skipBlanks_of_not_isBlank {c : Char} (h : isBlank c = false) (rest : List Char) :
    skipBlanks (c :: rest) = c :: rest := by
  rw [skipBlanks, List.dropWhile_cons_of_neg (by rw [h]; exact Bool.false_ne_true)]

/-- What starts with a digit is a number. -/
theorem scan_of_isDigit {c : Char} (h : c.isDigit) (fuel : Nat) (rest : List Char) :
    scan (fuel + 1) (c :: rest) = scanNumber false (c :: rest) := by
  rw [scan, skipBlanks_of_not_isBlank (isBlank_of_isNumeral (isNumeral_of_isDigit h))]
  split
  · next heq => cases heq
  · next heq => cases heq; cases h
  · next heq => cases heq; cases h
  · next heq => cases heq; cases h
  · next heq => cases heq; cases h
  · next heq => cases heq; cases h
  · next heq => cases heq; cases h
  · next heq => cases heq; cases h
  · next heq =>
    cases heq
    rw [if_pos h]

/-- Behind a minus a number is read. -/
theorem scan_of_minus (fuel : Nat) (rest : List Char) :
    scan (fuel + 1) ('-' :: rest) = scanNumber true rest := by
  rw [scan]
  rfl

/-- No value starts with another character of a number. -/
theorem scan_of_isNumeral {c : Char} (h : isNumeral c) (hdigit : c.isDigit = false)
    (hminus : c ≠ '-') (fuel : Nat) (rest : List Char) :
    scan (fuel + 1) (c :: rest) = (broken ⟨.noValue, .noValue, true⟩, none) := by
  have hcases : c = '.' ∨ c = 'e' ∨ c = '+' := by
    simpa [isNumeral, hdigit, hminus, or_assoc] using h
  rcases hcases with rfl | rfl | rfl
  · rw [scan]; rfl
  · rw [scan]; rfl
  · rw [scan]; rfl

/-- What is read as a number is the text of one, up to where it ends. -/
theorem lexNumber_of_scanNumber {negative : Bool} {n : Number}
    (h : scanNumber negative cs = (number n, some rest)) :
    ∃ l, lexNumber negative cs = .ok (l, rest) ∧ l.toNumber? = some n := by
  unfold scanNumber at h
  split at h
  · cases h
  · next l left hlex =>
    split at h
    · next m hm =>
      cases h
      exact ⟨l, hlex, hm⟩
    · cases h

/-- What is read as a number is read as the same number in front of anything that no number goes on
with. -/
theorem scanNumber_append {negative : Bool} {n : Number}
    (h : scanNumber negative cs = (number n, some [])) (hrest : endsNumber rest) :
    scanNumber negative (cs ++ rest) = (number n, some rest) := by
  obtain ⟨l, hlex, hn⟩ := lexNumber_of_scanNumber h
  rw [scanNumber, lexNumber_append hrest hlex]
  dsimp only
  rw [hn, List.nil_append]

/-- No blank stands behind what is read as a number, if there is none in the text. -/
theorem scanNumber_complete {negative : Bool} {n : Number}
    (h : scanNumber negative cs = (number n, some rest)) (hrest : (skipBlanks rest).isEmpty)
    (hplain : ∀ c ∈ cs, isBlank c = false) : rest = [] := by
  obtain ⟨l, hlex, -⟩ := lexNumber_of_scanNumber h
  cases rest with
  | nil => rfl
  | cons c others =>
    have hc : isBlank c = false :=
      hplain c ((lexNumber_suffix hlex).subset List.mem_cons_self)
    rw [skipBlanks_of_not_isBlank hc] at hrest
    cases hrest

/-- A whole text that is a number is scanned as one, and only blanks are left of it. -/
theorem scanNumber_of_ofText {text : String} {negative : Bool} {n : Number}
    (hscan : ∀ fuel, scan (fuel + 1) text.toList = scanNumber negative cs)
    (h : ofText text = (number n, true)) :
    ∃ rest, scanNumber negative cs = (number n, some rest) ∧ (skipBlanks rest).isEmpty := by
  rw [ofText, hscan] at h
  split at h
  · next tree heq =>
    cases h
    unfold scanNumber at heq
    split at heq
    · cases heq
    · split at heq
      · cases heq
      · cases heq
  · next tree rest heq =>
    rw [Prod.mk.injEq] at h
    obtain ⟨rfl, hblank⟩ := h
    exact ⟨rest, heq, hblank⟩

/-- A text that is a number in front of which there is no blank is read as one, with or without a
minus in front of it. -/
theorem exists_scanNumber {text : String} {n : Number} (hne : text.toList ≠ [])
    (hplain : ∀ c ∈ text.toList, isNumeral c) (h : ofText text = (number n, true)) :
    ∃ negative digits, scanNumber negative digits = (number n, some []) ∧
      ∀ fuel rest,
        scan (fuel + 1) (text.toList ++ rest) = scanNumber negative (digits ++ rest) := by
  obtain ⟨c, cs, hcs⟩ := List.exists_cons_of_ne_nil hne
  rw [hcs] at hplain
  have hblank : ∀ d ∈ c :: cs, isBlank d = false := fun d hd => isBlank_of_isNumeral (hplain d hd)
  by_cases hminus : c = '-'
  · subst hminus
    have hscan : ∀ fuel rest,
        scan (fuel + 1) (text.toList ++ rest) = scanNumber true (cs ++ rest) := by
      intro fuel rest
      rw [hcs]
      exact scan_of_minus fuel (cs ++ rest)
    obtain ⟨rest, hnumber, hrest⟩ := scanNumber_of_ofText
      (fun fuel => by simpa only [List.append_nil] using hscan fuel []) h
    obtain rfl := scanNumber_complete hnumber hrest
      fun d hd => hblank d (List.mem_cons_of_mem _ hd)
    exact ⟨true, cs, hnumber, hscan⟩
  · cases hdigit : c.isDigit with
    | true =>
      have hscan : ∀ fuel rest,
          scan (fuel + 1) (text.toList ++ rest) = scanNumber false (c :: cs ++ rest) := by
        intro fuel rest
        rw [hcs]
        exact scan_of_isDigit hdigit fuel (cs ++ rest)
      obtain ⟨rest, hnumber, hrest⟩ := scanNumber_of_ofText
        (fun fuel => by simpa only [List.append_nil] using hscan fuel []) h
      obtain rfl := scanNumber_complete hnumber hrest hblank
      exact ⟨false, c :: cs, hnumber, hscan⟩
    | false =>
      rw [ofText, hcs, scan_of_isNumeral (hplain c List.mem_cons_self) hdigit hminus] at h
      cases h

end Tree

namespace Number

variable {n : Number}

/-- The text of a double that is not finite is that of no number. -/
theorem ReadsBack.isFinite (h : n.ReadsBack) : n.isFinite := by
  cases n with
  | int i => rfl
  | float x =>
    by_contra hx
    have htext : (float x).text = "null" := if_neg hx
    have hnull : Tree.ofText "null" = (Tree.null, true) := rfl
    rw [ReadsBack, htext, hnull] at h
    cases h

/-- A number that is read back is read wherever no number goes on behind it. -/
theorem ReadsBack.scan (h : n.ReadsBack) {rest : List Char} (hrest : endsNumber rest)
    (fuel : Nat) : Tree.scan (fuel + 1) (n.text.toList ++ rest) = (.number n, some rest) := by
  obtain ⟨negative, digits, hnumber, hscan⟩ := Tree.exists_scanNumber (text_ne_nil h.isFinite)
    (fun c hc => isNumeral_text h.isFinite hc) h
  rw [hscan]
  exact Tree.scanNumber_append hnumber hrest

end Number

/-! ## Integers -/

/-- The digits of a positive number do not begin with a zero. -/
theorem toDigits_leading {n : Nat} (h : 0 < n) :
    ∃ c rest, Nat.toDigits 10 n = c :: rest ∧ c ≠ '0' := by
  induction n using Nat.strongRecOn with
  | ind n ih =>
    by_cases hn : n < 10
    · have hdigit : ∀ d < 10, 0 < d → d.digitChar ≠ '0' := by decide
      exact ⟨n.digitChar, [], Nat.toDigits_of_lt_base hn, hdigit n hn h⟩
    · obtain ⟨c, rest, hleading, hc⟩ := ih (n / 10) (by omega) (by omega)
      refine ⟨c, rest ++ [(n % 10).digitChar], ?_, hc⟩
      rw [Nat.toDigits_of_base_le (by decide) (by omega), hleading, List.cons_append]

/-- The values of the digits of a number. -/
def digitValues (n : Nat) : List Nat :=
  (Nat.toDigits 10 n).map fun c => c.toNat - '0'.toNat

/-- All digits of a number are taken. -/
theorem takeDigits_toDigits (n : Nat) :
    takeDigits (Nat.toDigits 10 n) = (digitValues n, []) := by
  have hdigits : ∀ c ∈ Nat.toDigits 10 n, c.isDigit := fun c hc => Decimal.isDigit_toDigits hc
  rw [takeDigits, List.takeWhile_eq_self_iff.2 hdigits, List.dropWhile_eq_nil_iff.2 hdigits,
    digitValues]

/-- The values of its digits make up a number. -/
theorem foldl_digitValues (n : Nat) : (digitValues n).foldl (fun n d => n * 10 + d) 0 = n := by
  rw [digitValues, List.foldl_map]
  exact Decimal.ofDigits_toDigits n

/-- Zero is the only digit of its value. -/
theorem eq_zero_of_isDigit {c : Char} (h : c.isDigit) (hvalue : c.toNat - '0'.toNat = 0) :
    c = '0' := by
  have hlow : '0'.toNat ≤ c.toNat := (Char.isDigit_iff_toNat.1 h).1
  have heq : c.toNat = '0'.toNat := by omega
  rw [← Char.ofNat_toNat c, heq]
  rfl

/-- The value of the first digit is zero for zero only. -/
theorem eq_zero_of_digitValues {n : Nat} {rest : List Nat} (h : digitValues n = 0 :: rest) :
    n = 0 := by
  by_contra hn
  obtain ⟨c, others, hleading, hc⟩ := toDigits_leading (Nat.pos_of_ne_zero hn)
  rw [digitValues, hleading, List.map_cons, List.cons.injEq] at h
  have hdigit : c ∈ Nat.toDigits 10 n := by
    rw [hleading]
    exact List.mem_cons_self
  exact hc (eq_zero_of_isDigit (Decimal.isDigit_toDigits hdigit) h.1)

/-- The digits of a number are those of a literal. -/
theorem lexNumber_toDigits (negative : Bool) (n : Nat) :
    lexNumber negative (Nat.toDigits 10 n) = .ok (⟨negative, digitValues n, none, none⟩, []) := by
  unfold lexNumber
  rw [takeDigits_toDigits]
  dsimp only
  split
  · next h => exact absurd (List.map_eq_nil_iff.1 h) Nat.toDigits_ne_nil
  · next d h => rw [h]; rfl
  · next rest hlong h =>
    obtain rfl := eq_zero_of_digitValues h
    have hzero : digitValues 0 = [0] := rfl
    rw [hzero, List.cons.injEq] at h
    exact absurd h.2.symm hlong
  · next => rfl

namespace Number

/-- The literal of an integer denotes it, if 64 bits hold it. -/
theorem toNumber?_int {i : Int} (h : inRange i) :
    (⟨decide (i < 0), digitValues i.natAbs, none, none⟩ : Literal).toNumber? = some (int i) := by
  have hvalue : (if decide (i < 0) = true then -(i.natAbs : Int) else i.natAbs) = i := by
    by_cases hneg : i < 0
    · rw [if_pos (decide_eq_true hneg)]
      omega
    · rw [if_neg (by rw [decide_eq_false hneg]; exact Bool.false_ne_true)]
      omega
  have hnonzero : (decide (i < 0) && i.natAbs == 0) = false := by
    by_cases hneg : i < 0
    · have habs : i.natAbs ≠ 0 := by omega
      simp [habs]
    · rw [decide_eq_false hneg]
      rfl
  unfold Literal.toNumber?
  simp only [foldl_digitValues, hvalue, hnonzero, h, Option.isSome_none, Bool.or_self,
    Bool.false_eq_true, if_false, if_true]

/-- Digits behind a sign are read as the integer. -/
theorem scanNumber_int {i : Int} (h : inRange i) :
    Tree.scanNumber (decide (i < 0)) (Nat.toDigits 10 i.natAbs) = (.number (int i), some []) := by
  rw [Tree.scanNumber, lexNumber_toDigits]
  dsimp only
  rw [toNumber?_int h]

/-- Every integer of 64 bits is read back. -/
theorem readsBack_int {i : Int} (h : inRange i) : (int i).ReadsBack := by
  have hscan : ∀ fuel, Tree.scan (fuel + 1) (toString i).toList = (.number (int i), some []) := by
    intro fuel
    rw [toList_toString_int, ← scanNumber_int h]
    by_cases hneg : i < 0
    · rw [if_pos hneg, decide_eq_true hneg]
      exact Tree.scan_of_minus fuel _
    · rw [if_neg hneg, decide_eq_false hneg]
      cases hdigits : Nat.toDigits 10 i.natAbs with
      | nil => exact absurd hdigits Nat.toDigits_ne_nil
      | cons c rest =>
        have hc : c ∈ Nat.toDigits 10 i.natAbs := by
          rw [hdigits]
          exact List.mem_cons_self
        exact Tree.scan_of_isDigit (Decimal.isDigit_toDigits hc) fuel rest
  show Tree.ofText (toString i) = _
  rw [Tree.ofText, hscan]
  rfl

end Number

end Chartboard.Json
