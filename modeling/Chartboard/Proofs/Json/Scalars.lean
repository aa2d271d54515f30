import Chartboard.Proofs.Decimal.Written
import Chartboard.Proofs.Json.Quoting

/-!
# Written cells

A cell is null, a boolean, a number or a text. The JSON text of a cell determines the cell, also
inside an array, where it ends at a comma or a bracket.
-/

namespace Chartboard.Json

open Decimal (isNumeral isNumeral_of_isDigit)

namespace Number

/-- The number is an integer or a finite double. -/
def isFinite : Number → Bool
  | int _ => true
  | float x => x.isFinite

/-- A finite double is written in the style of JSON. -/
theorem text_float {x : Float} (h : (float x).isFinite) :
    (float x).text = floatStyle.render x :=
  if_pos h

/-- What is written of a finite number stands in numerals. -/
theorem isNumeral_text {n : Number} (h : n.isFinite) {c : Char} (hc : c ∈ n.text.toList) :
    isNumeral c := by
  cases n with
  | int i =>
    have htext : (int i).text.toList = (toString i).toList := rfl
    rw [htext, toList_toString_int] at hc
    split at hc
    · rcases List.mem_cons.1 hc with rfl | hc
      · decide
      · exact isNumeral_of_isDigit (Decimal.isDigit_toDigits hc)
    · exact isNumeral_of_isDigit (Decimal.isDigit_toDigits hc)
  | float x =>
    rw [text_float h] at hc
    exact floatStyle.isNumeral_render x hc

/-- Something is written of every finite number. -/
theorem text_ne_nil {n : Number} (h : n.isFinite) : n.text.toList ≠ [] := by
  cases n with
  | int i =>
    have htext : (int i).text.toList = (toString i).toList := rfl
    rw [htext, toList_toString_int]
    split
    · exact List.cons_ne_nil _ _
    · exact Nat.toDigits_ne_nil
  | float x =>
    rw [text_float h, floatStyle.toList_render]
    split
    · exact List.cons_ne_nil _ _
    · obtain ⟨c, rest, hbody, _⟩ := (floatStyle.writes_body (Decimal.shortest x)).begins
      rw [hbody]
      exact List.cons_ne_nil c rest

/-- No two numbers have the same text. -/
theorem text_injective {m n : Number} (hm : m.isFinite) (hn : n.isFinite) (h : m.text = n.text) :
    m = n := by
  cases m with
  | int i =>
    cases n with
    | int j => rw [toString_int_injective h]
    | float y =>
      rw [text_float hn] at h
      exact absurd h.symm (floatStyle.render_ne_toString_int y i)
  | float x =>
    rw [text_float hm] at h
    cases n with
    | int j => exact absurd h (floatStyle.render_ne_toString_int x j)
    | float y =>
      rw [text_float hn] at h
      rw [floatStyle.render_injective h]

end Number

namespace Value

/-- The value is one that a cell can have: no container, and doubles are finite. -/
def isScalar : Value → Bool
  | null | bool _ | string _ => true
  | number n => n.isFinite
  | array _ | object _ => false

/-- The value is written without quotes. -/
def isBare : Value → Bool
  | null | bool _ => true
  | number n => n.isFinite
  | string _ | array _ | object _ => false

/-- A character that does not end a bare value and does not open a text. -/
def isBareChar (c : Char) : Bool :=
  c != ',' && c != ']' && c != '"'

/-- What stands in numerals ends no bare value. -/
theorem isBareChar_of_isNumeral {c : Char} (h : isNumeral c) : isBareChar c := by
  have hcomma : c ≠ ',' := by rintro rfl; cases h
  have hbracket : c ≠ ']' := by rintro rfl; cases h
  have hquote : c ≠ '"' := by rintro rfl; cases h
  simp [isBareChar, hcomma, hbracket, hquote]

/-- No character of a bare value ends it. -/
theorem isBareChar_chars {v : Value} (h : v.isBare) : ∀ c ∈ v.chars, isBareChar c := by
  cases v with
  | null =>
    rw [chars]
    exact List.all_eq_true.1 (by decide)
  | bool b =>
    cases b with
    | true =>
      rw [chars]
      exact List.all_eq_true.1 (by decide)
    | false =>
      rw [chars]
      exact List.all_eq_true.1 (by decide)
  | number n =>
    intro c hc
    rw [chars] at hc
    exact isBareChar_of_isNumeral (Number.isNumeral_text h hc)
  | string s => cases h
  | array items => cases h
  | object members => cases h

/-- The value is one of the three words. -/
def isWord : Value → Bool
  | null | bool _ => true
  | _ => false

/-- The bare values that are words are null and the truth values. -/
theorem eq_of_isWord {v : Value} (h : v.isWord) : v = null ∨ v = bool true ∨ v = bool false := by
  cases v with
  | null => exact Or.inl rfl
  | bool b =>
    cases b with
    | true => exact Or.inr (Or.inl rfl)
    | false => exact Or.inr (Or.inr rfl)
  | _ => cases h

/-- The three words differ. -/
theorem chars_injective_of_isWord {v w : Value} (hv : v.isWord) (hw : w.isWord)
    (h : v.chars = w.chars) : v = w := by
  rcases eq_of_isWord hv with rfl | rfl | rfl <;> rcases eq_of_isWord hw with rfl | rfl | rfl
  all_goals first
    | rfl
    | exact absurd h (by rw [chars, chars]; decide)

/-- The text of a number is no word. -/
theorem chars_number_ne {n : Number} {w : Value} (h : n.isFinite) (hw : w.isWord) :
    (number n).chars ≠ w.chars := by
  have hletter : ∃ c ∈ w.chars, ¬ isNumeral c := by
    rcases eq_of_isWord hw with rfl | rfl | rfl
    · exact ⟨'n', by rw [chars]; decide, by decide⟩
    · exact ⟨'t', by rw [chars]; decide, by decide⟩
    · exact ⟨'f', by rw [chars]; decide, by decide⟩
  intro heq
  obtain ⟨c, hc, hnot⟩ := hletter
  rw [← heq, chars] at hc
  exact hnot (Number.isNumeral_text h hc)

/-- A bare value is a word or a finite number. -/
theorem bare_cases {v : Value} (h : v.isBare) :
    v.isWord ∨ ∃ n, v = number n ∧ n.isFinite := by
  cases v with
  | null => exact Or.inl rfl
  | bool b => exact Or.inl rfl
  | number n => exact Or.inr ⟨n, rfl, h⟩
  | _ => cases h

/-- No two bare values have the same text. -/
theorem chars_injective_of_isBare {v w : Value} (hv : v.isBare) (hw : w.isBare)
    (h : v.chars = w.chars) : v = w := by
  rcases bare_cases hv with hword | ⟨m, rfl, hm⟩
  · rcases bare_cases hw with hword' | ⟨n, rfl, hn⟩
    · exact chars_injective_of_isWord hword hword' h
    · exact absurd h.symm (chars_number_ne hn hword)
  · rcases bare_cases hw with hword' | ⟨n, rfl, hn⟩
    · exact absurd h (chars_number_ne hm hword')
    · rw [chars, chars, String.toList_inj] at h
      rw [Number.text_injective hm hn h]

/-! ## Inside an array -/

/-- A scalar is a bare value or a text. -/
theorem scalar_cases {v : Value} (h : v.isScalar) : v.isBare ∨ ∃ s, v = string s := by
  cases v with
  | null => exact Or.inl rfl
  | bool b => exact Or.inl rfl
  | number n => exact Or.inl h
  | string s => exact Or.inr ⟨s, rfl⟩
  | _ => cases h

/-- A bare value is read up to the comma or bracket behind it. -/
theorem takeWhile_chars {v : Value} (h : v.isBare) {items : List Value} :
    (v.chars ++ itemChars items).takeWhile isBareChar = v.chars := by
  have hitems : (itemChars items).takeWhile isBareChar = [] := by
    cases items with
    | nil =>
      rw [itemChars]
      rfl
    | cons v rest =>
      rw [itemChars]
      rfl
  rw [List.takeWhile_append_of_pos (isBareChar_chars h), hitems, List.append_nil]

/-- Something is written of every bare value. -/
theorem chars_ne_nil {v : Value} (h : v.isBare) : v.chars ≠ [] := by
  rcases bare_cases h with hword | ⟨n, rfl, hn⟩
  · rcases eq_of_isWord hword with rfl | rfl | rfl
    all_goals
      rw [chars]
      decide
  · rw [chars]
    exact Number.text_ne_nil hn

/-- A bare value and a text are told apart by the quotation mark. -/
theorem chars_bare_ne_quote {v : Value} (h : v.isBare) {s : String} {items items' : List Value} :
    v.chars ++ itemChars items ≠ quote s ++ itemChars items' := by
  intro heq
  have hbare := @takeWhile_chars v h items
  rw [heq] at hbare
  exact chars_ne_nil h hbare.symm

/-- A value of a cell ends where the next item of the array begins. -/
theorem chars_append_inj {v w : Value} (hv : v.isScalar) (hw : w.isScalar)
    {items items' : List Value}
    (h : v.chars ++ itemChars items = w.chars ++ itemChars items') :
    v = w ∧ itemChars items = itemChars items' := by
  rcases scalar_cases hv with hbare | ⟨s, rfl⟩
  · rcases scalar_cases hw with hbare' | ⟨s', rfl⟩
    · have htaken := congrArg (List.takeWhile isBareChar) h
      rw [takeWhile_chars hbare, takeWhile_chars hbare'] at htaken
      rw [htaken] at h
      exact ⟨chars_injective_of_isBare hbare hbare' htaken, List.append_cancel_left h⟩
    · rw [chars] at h
      exact absurd h (chars_bare_ne_quote hbare)
  · rw [chars] at h
    rcases scalar_cases hw with hbare' | ⟨s', rfl⟩
    · exact absurd h.symm (chars_bare_ne_quote hbare')
    · rw [chars] at h
      obtain ⟨hs, hrest⟩ := quote_append_inj h
      exact ⟨congrArg string hs, hrest⟩

/-- Lists of scalars that are written alike are the same. -/
theorem itemChars_inj {vs ws : List Value} (hvs : ∀ v ∈ vs, v.isScalar)
    (hws : ∀ w ∈ ws, w.isScalar) (h : itemChars vs = itemChars ws) : vs = ws := by
  induction vs generalizing ws with
  | nil =>
    cases ws with
    | nil => rfl
    | cons w ws =>
      rw [itemChars, itemChars] at h
      cases h
  | cons v vs ih =>
    cases ws with
    | nil =>
      rw [itemChars, itemChars] at h
      cases h
    | cons w ws =>
      rw [itemChars, itemChars, List.cons.injEq] at h
      obtain ⟨hhead, htail⟩ := chars_append_inj (hvs v List.mem_cons_self)
        (hws w List.mem_cons_self) h.2
      rw [hhead, ih (fun v hv => hvs v (List.mem_cons_of_mem _ hv))
        (fun w hw => hws w (List.mem_cons_of_mem _ hw)) htail]

end Value

end Chartboard.Json
