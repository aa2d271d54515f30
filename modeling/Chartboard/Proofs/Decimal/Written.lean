import Chartboard.Decimal.Style
import Chartboard.Proofs.Decimal.Distinct
import Chartboard.Proofs.Decimal.Reading

/-!
# Written doubles read back

Both forms of a written double are texts of the decimal behind it: read digit by digit they give a
decimal of the same value. Hence no two doubles have the same text; not even the two zeros, which
differ in their sign.
-/

namespace Chartboard

namespace Decimal

/-- The characters of written numbers. -/
def isNumeral (c : Char) : Bool :=
  c.isDigit || c == '.' || c == 'e' || c == '+' || c == '-'

/-- Digits stand in numerals. -/
theorem isNumeral_of_isDigit {c : Char} (h : c.isDigit) : isNumeral c := by
  unfold isNumeral
  rw [h]
  rfl

/-- An unsigned text that begins with a digit and reads as a decimal of the value. -/
structure Writes (cs : List Char) (q : ℚ) : Prop where
  /-- There is a digit in front. -/
  begins : ∃ c rest, cs = c :: rest ∧ c.isDigit
  /-- A point or an exponent tells the text from that of an integer. -/
  marked : ∃ c ∈ cs, ¬ c.isDigit
  /-- There is nothing else in it. -/
  plain : ∀ c ∈ cs, isNumeral c
  /-- The whole text is a decimal. -/
  reads : ∃ d, ofChars? cs = some d ∧ d.value = q

/-! ## Parts of a text -/

/-- Where no digit is in front, none is dropped. -/
theorem dropWhile_of_takeWhile_eq_nil {cs : List Char} (h : cs.takeWhile Char.isDigit = []) :
    cs.dropWhile Char.isDigit = cs := by
  have hparts := List.takeWhile_append_dropWhile (p := Char.isDigit) (l := cs)
  rw [h] at hparts
  exact hparts

variable {whole fraction rest : List Char} {e : Int} {q : ℚ}

/-- Digits around a point, with or without an exponent behind them. -/
theorem writes_of_point (hne : whole ≠ []) (hwhole : ∀ c ∈ whole, c.isDigit)
    (hfraction : ∀ c ∈ fraction, c.isDigit) (hrest : rest.takeWhile Char.isDigit = [])
    (he : exponent? rest = some e) (hplain : ∀ c ∈ rest, isNumeral c)
    (hvalue : value ⟨ofDigits (whole ++ fraction), e - fraction.length⟩ = q) :
    Writes (whole ++ '.' :: (fraction ++ rest)) q := by
  constructor
  · cases whole with
    | nil => exact absurd rfl hne
    | cons c others => exact ⟨c, _, rfl, hwhole c List.mem_cons_self⟩
  · exact ⟨'.', List.mem_append_right whole List.mem_cons_self, by decide⟩
  · intro c hc
    rcases List.mem_append.1 hc with hc | hc
    · exact isNumeral_of_isDigit (hwhole c hc)
    · rcases List.mem_cons.1 hc with rfl | hc
      · decide
      · rcases List.mem_append.1 hc with hc | hc
        · exact isNumeral_of_isDigit (hfraction c hc)
        · exact hplain c hc
  · refine ⟨_, ?_, hvalue⟩
    have hpoint : ('.' :: (fraction ++ rest)).takeWhile Char.isDigit = [] := rfl
    have htake : (whole ++ '.' :: (fraction ++ rest)).takeWhile Char.isDigit = whole := by
      rw [List.takeWhile_append_of_pos hwhole, hpoint, List.append_nil]
    have hdrop : (whole ++ '.' :: (fraction ++ rest)).dropWhile Char.isDigit =
        '.' :: (fraction ++ rest) := by
      rw [List.dropWhile_append_of_pos hwhole, dropWhile_of_takeWhile_eq_nil hpoint]
    have hfractionTake : (fraction ++ rest).takeWhile Char.isDigit = fraction := by
      rw [List.takeWhile_append_of_pos hfraction, hrest, List.append_nil]
    have hfractionDrop : (fraction ++ rest).dropWhile Char.isDigit = rest := by
      rw [List.dropWhile_append_of_pos hfraction, dropWhile_of_takeWhile_eq_nil hrest]
    unfold ofChars?
    simp only [htake, hdrop, hfractionTake, hfractionDrop, he, Option.map_some]
    rw [if_neg (by simp [hne])]

/-- Digits and an exponent. -/
theorem writes_of_whole (hne : whole ≠ []) (hwhole : ∀ c ∈ whole, c.isDigit)
    (he : exponent? ('e' :: rest) = some e) (hplain : ∀ c ∈ 'e' :: rest, isNumeral c)
    (hvalue : value ⟨ofDigits whole, e⟩ = q) :
    Writes (whole ++ 'e' :: rest) q := by
  constructor
  · cases whole with
    | nil => exact absurd rfl hne
    | cons c others => exact ⟨c, _, rfl, hwhole c List.mem_cons_self⟩
  · exact ⟨'e', List.mem_append_right whole List.mem_cons_self, by decide⟩
  · intro c hc
    rcases List.mem_append.1 hc with hc | hc
    · exact isNumeral_of_isDigit (hwhole c hc)
    · exact hplain c hc
  · have hmark : ('e' :: rest).takeWhile Char.isDigit = [] := rfl
    have htake : (whole ++ 'e' :: rest).takeWhile Char.isDigit = whole := by
      rw [List.takeWhile_append_of_pos hwhole, hmark, List.append_nil]
    have hdrop : (whole ++ 'e' :: rest).dropWhile Char.isDigit = 'e' :: rest := by
      rw [List.dropWhile_append_of_pos hwhole, dropWhile_of_takeWhile_eq_nil hmark]
    refine ⟨⟨ofDigits whole, e⟩, ?_, hvalue⟩
    unfold ofChars?
    simp only [htake, hdrop]
    rw [if_neg (by simp [hne])]
    show (exponent? ('e' :: rest)).map (fun e => (⟨ofDigits (whole ++ []), e - 0⟩ : Decimal)) = _
    rw [he, Option.map_some, List.append_nil, Int.sub_zero]

/-- The exponent of a scientific text is read with its sign. -/
theorem exponent?_written (signed : Bool) (leading : Int) :
    exponent? ('e' :: ((if leading < 0 then ['-'] else if signed then ['+'] else []) ++
      Nat.toDigits 10 leading.natAbs)) = some leading := by
  have hdigits : Nat.toDigits 10 leading.natAbs ≠ [] ∧
      (Nat.toDigits 10 leading.natAbs).all Char.isDigit :=
    ⟨Nat.toDigits_ne_nil, List.all_eq_true.2 fun c hc => isDigit_toDigits hc⟩
  unfold exponent?
  split_ifs with hnegative hsigned
  · have hvalue : -(leading.natAbs : Int) = leading := by omega
    simp [splitSign, hdigits, hvalue, -Nat.cast_natAbs]
  · have hvalue : (leading.natAbs : Int) = leading := by omega
    simp [splitSign, hdigits, hvalue, -Nat.cast_natAbs]
  · have hvalue : (leading.natAbs : Int) = leading := by omega
    simp [splitSign_toDigits, hdigits, hvalue, -Nat.cast_natAbs]

/-- The mark of an exponent, its sign and its digits stand in numerals. -/
theorem isNumeral_exponent {signed : Bool} {leading : Int} {c : Char}
    (h : c ∈ 'e' :: ((if leading < 0 then ['-'] else if signed then ['+'] else []) ++
      Nat.toDigits 10 leading.natAbs)) : isNumeral c := by
  rcases List.mem_cons.1 h with rfl | h
  · decide
  · rcases List.mem_append.1 h with h | h
    · split_ifs at h
      · rw [List.mem_singleton.1 h]
        decide
      · rw [List.mem_singleton.1 h]
        decide
      · cases h
    · exact isNumeral_of_isDigit (isDigit_toDigits h)

/-! ## The two forms -/

/-- Zeros are read as zero. -/
theorem ofDigits_replicate_zero (n : Nat) : ofDigits (List.replicate n '0') = 0 := by
  rw [ofDigits_eq_ofDigitChars, Nat.ofDigitChars_replicate_zero, Nat.mul_zero]

/-- A zero is a digit. -/
theorem isDigit_of_mem_replicate {n : Nat} {c : Char} (h : c ∈ List.replicate n '0') :
    c.isDigit := by
  rw [List.eq_of_mem_replicate h]
  decide

/-- The place of the leading digit of a decimal. -/
def leading (d : Decimal) : Int :=
  (Nat.toDigits 10 d.coefficient).length - 1 + d.exponent

section Positional

variable {digits : List Char} {zeros place : Nat}

/-- Digits behind digits are digits. -/
theorem isDigit_of_mem_append {left right : List Char} (hleft : ∀ c ∈ left, c.isDigit)
    (hright : ∀ c ∈ right, c.isDigit) : ∀ c ∈ left ++ right, c.isDigit := by
  intro c hc
  rcases List.mem_append.1 hc with hc | hc
  · exact hleft c hc
  · exact hright c hc

/-- Zeros are digits. -/
theorem isDigit_zeros (n : Nat) : ∀ c ∈ List.replicate n '0', c.isDigit :=
  fun _ hc => isDigit_of_mem_replicate hc

/-- Zeros between the point and the digits. -/
theorem writes_below (hdigits : ∀ c ∈ digits, c.isDigit) :
    Writes ('0' :: '.' :: (List.replicate zeros '0' ++ digits))
      (value ⟨ofDigits digits, -((zeros + digits.length : Nat) : Int)⟩) := by
  have hwritten := @writes_of_point ['0'] (List.replicate zeros '0' ++ digits) [] 0 _
    (List.cons_ne_nil _ _) (isDigit_zeros 1) (isDigit_of_mem_append (isDigit_zeros zeros) hdigits)
    rfl rfl (by simp) rfl
  rw [List.append_nil, ofDigits_append, ofDigits_append, ofDigits_replicate_zero,
    List.length_append, List.length_replicate] at hwritten
  simpa [ofDigits] using hwritten

/-- Zeros between the digits and the point. -/
theorem writes_above (hne : digits ≠ []) (hdigits : ∀ c ∈ digits, c.isDigit) :
    Writes (digits ++ List.replicate zeros '0' ++ ['.', '0'])
      (value ⟨ofDigits digits, zeros⟩) := by
  have hwhole : digits ++ List.replicate zeros '0' ≠ [] := by
    intro hnil
    exact hne (List.append_eq_nil_iff.1 hnil).1
  apply @writes_of_point _ ['0'] [] 0 _ hwhole
    (isDigit_of_mem_append hdigits (isDigit_zeros zeros)) (isDigit_zeros 1) rfl rfl (by simp)
  rw [ofDigits_append, ofDigits_append, ofDigits_replicate_zero, List.length_replicate]
  simp [value, ofDigits]

/-- The point among the digits. -/
theorem writes_among (hdigits : ∀ c ∈ digits, c.isDigit) (hpos : 0 < place)
    (hlt : place < digits.length) :
    Writes (digits.take place ++ '.' :: digits.drop place)
      (value ⟨ofDigits digits, -((digits.length - place : Nat) : Int)⟩) := by
  have hne : digits.take place ≠ [] := by
    intro hnil
    have htaken := congrArg List.length hnil
    rw [List.length_take, List.length_nil] at htaken
    omega
  have hwritten := @writes_of_point (digits.take place) (digits.drop place) [] 0 _ hne
    (fun c hc => hdigits c (List.mem_of_mem_take hc))
    (fun c hc => hdigits c (List.mem_of_mem_drop hc)) rfl rfl (by simp) rfl
  rw [List.append_nil, List.take_append_drop, List.length_drop, Int.zero_sub] at hwritten
  exact hwritten

end Positional

/-- The positional form of a decimal is read as its value. -/
theorem writes_positional (d : Decimal) :
    Writes (FloatStyle.positional (Nat.toDigits 10 d.coefficient) d.leading) d.value := by
  have hdigits : ∀ c ∈ Nat.toDigits 10 d.coefficient, c.isDigit := fun c hc => isDigit_toDigits hc
  have hread := ofDigits_toDigits d.coefficient
  have hlength : 0 < (Nat.toDigits 10 d.coefficient).length := Nat.length_toDigits_pos
  have hleading : d.leading = (Nat.toDigits 10 d.coefficient).length - 1 + d.exponent := rfl
  generalize Nat.toDigits 10 d.coefficient = digits at hdigits hread hlength hleading ⊢
  have hvalue : d.value = value ⟨ofDigits digits, d.exponent⟩ := by rw [hread]
  rw [hvalue]
  unfold FloatStyle.positional
  simp only
  split_ifs with hsmall hwhole
  · have hexponent : d.exponent = -(((-d.leading - 1).toNat + digits.length : Nat) : Int) := by
      omega
    rw [hexponent]
    exact writes_below hdigits
  · have hexponent : d.exponent = ((d.leading.toNat + 1 - digits.length : Nat) : Int) := by
      omega
    rw [hexponent]
    exact writes_above (List.ne_nil_of_length_pos hlength) hdigits
  · have hexponent : d.exponent = -((digits.length - (d.leading.toNat + 1) : Nat) : Int) := by
      omega
    rw [hexponent]
    exact writes_among hdigits (Nat.succ_pos _) (Nat.lt_of_not_le hwhole)

/-- The scientific form of a decimal is read as its value. -/
theorem writes_scientific (style : FloatStyle) (d : Decimal) :
    Writes (style.scientific (Nat.toDigits 10 d.coefficient) d.leading) d.value := by
  have hdigits : ∀ c ∈ Nat.toDigits 10 d.coefficient, c.isDigit := fun c hc => isDigit_toDigits hc
  have hread := ofDigits_toDigits d.coefficient
  have hleading : d.leading = (Nat.toDigits 10 d.coefficient).length - 1 + d.exponent := rfl
  have hexponent := exponent?_written style.signedExponent d.leading
  have hplain := @isNumeral_exponent style.signedExponent d.leading
  unfold FloatStyle.scientific
  simp only
  generalize (if d.leading < 0 then ['-'] else if style.signedExponent then ['+'] else []) =
    sign at hexponent hplain ⊢
  cases hcases : Nat.toDigits 10 d.coefficient with
  | nil => exact absurd hcases Nat.toDigits_ne_nil
  | cons c rest =>
    rw [hcases] at hdigits hread hleading
    rw [List.append_assoc, List.cons_append]
    cases rest with
    | nil =>
      have hplace : d.leading = d.exponent := by simpa using hleading
      apply writes_of_whole (List.cons_ne_nil c []) hdigits hexponent @hplain
      rw [hread, hplace]
    | cons c' rest =>
      have hplace : d.leading - (c' :: rest).length = d.exponent := by
        rw [hleading]
        simp only [List.length_cons]
        omega
      have hwritten := @writes_of_point [c] (c' :: rest) _ _ d.value (List.cons_ne_nil c [])
        (fun a ha => hdigits a (List.mem_cons.2 (Or.inl (List.mem_singleton.1 ha))))
        (fun a ha => hdigits a (List.mem_cons_of_mem c ha)) rfl hexponent @hplain
      rw [List.singleton_append, hread, hplace] at hwritten
      exact hwritten rfl

end Decimal

/-! ## Texts of doubles -/

namespace FloatStyle

/-- The text of a magnitude. -/
def body (style : FloatStyle) (d : Decimal) : List Char :=
  if style.positionalFrom ≤ d.leading ∧ d.leading < style.positionalBelow then
    positional (Nat.toDigits 10 d.coefficient) d.leading
  else style.scientific (Nat.toDigits 10 d.coefficient) d.leading

/-- A double is written as its shortest decimal, behind a minus if it is negative. -/
theorem toList_render (style : FloatStyle) (x : Float) :
    (style.render x).toList =
      if Double.isNegative x then '-' :: style.body (Decimal.shortest x)
      else style.body (Decimal.shortest x) :=
  String.toList_ofList

/-- A decimal is read back from what is written of it in each style. -/
theorem writes_body (style : FloatStyle) (d : Decimal) : Decimal.Writes (style.body d) d.value := by
  unfold body
  split
  · exact Decimal.writes_positional d
  · exact Decimal.writes_scientific style d

/-- The sign in front of a written double is that of the double. -/
theorem splitSign_render (style : FloatStyle) (x : Float) :
    Decimal.splitSign (style.render x).toList =
      (Double.isNegative x, style.body (Decimal.shortest x)) := by
  rw [toList_render]
  split
  · rename_i hnegative
    rw [hnegative]
    rfl
  · rename_i hpositive
    obtain ⟨c, rest, hbody, hdigit⟩ := (style.writes_body (Decimal.shortest x)).begins
    rw [hbody, Decimal.splitSign_of_isDigit hdigit, Bool.eq_false_iff.2 hpositive]

/-- No two doubles have the same text. -/
theorem render_injective (style : FloatStyle) {x y : Float} (h : style.render x = style.render y) :
    x = y := by
  have hsplit := congrArg (fun text => Decimal.splitSign text.toList) h
  simp only [splitSign_render, Prod.mk.injEq] at hsplit
  obtain ⟨hsign, hbody⟩ := hsplit
  obtain ⟨d, hd, hvalue⟩ := (style.writes_body (Decimal.shortest x)).reads
  obtain ⟨d', hd', hvalue'⟩ := (style.writes_body (Decimal.shortest y)).reads
  have hshortest : (Decimal.shortest x).value = (Decimal.shortest y).value := by
    rw [hbody, hd', Option.some.injEq] at hd
    rw [← hvalue, ← hvalue', hd]
  exact Double.eq_of_magnitude (Decimal.ofFloat_eq_of_value_shortest hshortest) hsign

/-- What is written of a double stands in numerals. -/
theorem isNumeral_render (style : FloatStyle) (x : Float) {c : Char}
    (h : c ∈ (style.render x).toList) : Decimal.isNumeral c := by
  have hplain := (style.writes_body (Decimal.shortest x)).plain
  rw [toList_render] at h
  split at h
  · rcases List.mem_cons.1 h with rfl | h
    · decide
    · exact hplain c h
  · exact hplain c h

/-- The text of a double is not that of an integer. -/
theorem render_ne_toString_int (style : FloatStyle) (x : Float) (i : Int) :
    style.render x ≠ toString i := by
  intro h
  have hsplit := congrArg (fun text => Decimal.splitSign text.toList) h
  simp only [splitSign_render, splitSign_toString_int, Prod.mk.injEq] at hsplit
  obtain ⟨c, hc, hdigit⟩ := (style.writes_body (Decimal.shortest x)).marked
  rw [hsplit.2] at hc
  exact hdigit (Decimal.isDigit_toDigits hc)

end FloatStyle

end Chartboard
