import Chartboard.Proofs.Data.Typing
import Chartboard.Proofs.Decimal.Finite
import Chartboard.Proofs.Json.Scalars

/-!
# When two cells are the same

Groups tell cells apart by their JSON texts, filters compare cells as numbers or as labels, and
charts show their labels. Within one column the texts are exact. A filter on a value takes other
values for it as well: null and the text `null` for each other, and numbers that have one double.
Labels are exact but for null and the text `null`.
-/

namespace Chartboard

open Json (Value Number)

/-! ## What one column can hold -/

/-- What the cells of one column read as, apart from null. -/
inductive CellKind where
  /-- Booleans. -/
  | truth
  /-- Integers or finite doubles. -/
  | number
  /-- Texts. -/
  | text
  deriving DecidableEq, Repr

/-- The value is null or of the kind. -/
def CellKind.holds : CellKind → Value → Bool
  | _, .null => true
  | truth, .bool _ => true
  | number, .number n => n.isFinite
  | text, .string _ => true
  | _, _ => false

/-- The kind of the cells of a column. -/
def StorageType.kind : StorageType → CellKind
  | bool => .truth
  | int bits | nat bits => if bits < 32 then .text else .number
  | float bits => if bits < 32 then .text else .number
  | _ => .text

/-- An integer is held as a text below 32 bits and as a number from there on. -/
theorem holds_integer (bits : Nat) (i : Int) :
    (if bits < 32 then CellKind.text else CellKind.number).holds
      (if bits < 32 then .string (toString i) else .int i) := by
  split
  · rfl
  · rfl

/-- The value of a double is a finite number or null. -/
theorem holds_ofFloat (x : Float) : CellKind.number.holds (Value.ofFloat x) := by
  unfold Value.ofFloat
  split
  · rename_i hfinite
    exact hfinite
  · rfl

/-- The cells of a column read as null or as values of its kind. -/
theorem StorageType.holds_read {type : StorageType} {cell : Cell} (h : type.admits cell) :
    type.kind.holds (type.read cell) := by
  cases cell with
  | null => cases type <;> rfl
  | bool b =>
    cases type with
    | bool => rfl
    | _ => cases h
  | int i =>
    cases type with
    | int bits => exact holds_integer bits i
    | nat bits => exact holds_integer bits i
    | days => rfl
    | ticks unit => rfl
    | _ => cases h
  | float x =>
    cases type with
    | float bits =>
      have hbits : ¬ bits < 32 := Nat.not_lt.2 (of_decide_eq_true h)
      show (if bits < 32 then CellKind.text else CellKind.number).holds (Value.ofFloat x)
      rw [if_neg hbits]
      exact holds_ofFloat x
    | _ => cases h
  | text s =>
    cases type with
    | float bits =>
      have hbits : bits < 32 := of_decide_eq_true (Bool.and_eq_true_iff.1 h).1
      show (if bits < 32 then CellKind.text else CellKind.number).holds (Value.string s)
      rw [if_pos hbits]
      rfl
    | text => rfl
    | largeText => rfl
    | category => rfl
    | days => rfl
    | ticks unit => rfl
    | other => rfl
    | _ => cases h

/-- The cells of a column are scalar. -/
theorem CellKind.isScalar_of_holds {kind : CellKind} {v : Value} (h : kind.holds v) :
    v.isScalar := by
  cases v with
  | null => rfl
  | bool b => rfl
  | number n =>
    cases kind with
    | number => exact h
    | _ => cases h
  | string s => rfl
  | _ => cases kind <;> cases h

/-! ## What groups tell apart -/

/-- Groups of as many columns have the same text only if their keys are the same. -/
theorem Table.groupText_inj {keys keys' : List Value} (hlength : keys.length = keys'.length)
    (h : ∀ v ∈ keys, v.isScalar) (h' : ∀ v ∈ keys', v.isScalar)
    (htext : Table.groupText keys = Table.groupText keys') : keys = keys' := by
  have hchars : (Value.array keys).chars = (Value.array keys').chars := String.ofList_inj.1 htext
  cases keys with
  | nil => exact (List.length_eq_zero_iff.1 hlength.symm).symm
  | cons v keys =>
    cases keys' with
    | nil => cases hlength
    | cons w keys' =>
      rw [Value.chars, Value.chars, List.cons.injEq] at hchars
      obtain ⟨hhead, htail⟩ := Value.chars_append_inj (h v List.mem_cons_self)
        (h' w List.mem_cons_self) hchars.2
      rw [hhead, Value.itemChars_inj (fun v hv => h v (List.mem_cons_of_mem _ hv))
        (fun w hw => h' w (List.mem_cons_of_mem _ hw)) htail]

/-! ## What a filter takes for a value -/

/-- Two different values of one column that a filter takes for each other. -/
inductive Alias : Value → Value → Prop where
  /-- The label of null is a text like any other. -/
  | textForNull : Alias .null (.string "null")
  /-- A text may be the label of null. -/
  | nullForText : Alias (.string "null") .null
  /-- Large integers may have one double, and the two zeros are equal. -/
  | numbers {m n : Number} : m ≠ n → (n.toFloat == m.toFloat) = true →
      Alias (.number m) (.number n)

/-- Nothing is an alias of itself. -/
theorem not_alias_self (v : Value) : ¬ Alias v v := by
  intro h
  cases h with
  | numbers hne _ => exact hne rfl

/-- Of all texts only that of null has an alias. -/
theorem not_alias_text {s : String} (h : s ≠ "null") (w : Value) : ¬ Alias (.string s) w := by
  intro halias
  cases halias with
  | nullForText => exact h rfl

/-- A finite number equals itself as a double. -/
theorem toFloat_beq_self {n : Number} (h : n.isFinite) : (n.toFloat == n.toFloat) = true := by
  cases n with
  | int i => exact Double.beq_self (Double.isNaN_ofInt i)
  | float x => exact Double.beq_self (Double.isNaN_of_isFinite h)

/-- Truth values and nulls match where they are the same or alias each other. -/
theorem matchesFilter_words {v w : Value} (hv : v.isWord) (hw : w.isWord) :
    w.matchesFilter v ↔ w = v ∨ Alias v w := by
  have halias : ¬ Alias v w := by
    intro h
    cases h with
    | textForNull => cases hw
    | nullForText => cases hv
    | numbers => cases hv
  have hlabels : w.matchesFilter v = (w.compress == v.compress) := by
    rcases Value.eq_of_isWord hv with rfl | rfl | rfl <;>
      rcases Value.eq_of_isWord hw with rfl | rfl | rfl <;> rfl
  rw [hlabels, beq_iff_eq, or_iff_left halias]
  constructor
  · intro h
    exact Value.chars_injective_of_isWord hw hv (String.ofList_inj.1 h)
  · exact congrArg Value.compress

/-- A finite number does not match null, in either direction. -/
theorem matchesFilter_number_null {n : Number} (h : n.isFinite) :
    (Value.number n).matchesFilter .null = false ∧
      Value.null.matchesFilter (.number n) = false := by
  have hne : (Value.number n).compress ≠ Value.null.compress := fun heq =>
    Value.chars_number_ne h rfl (String.ofList_inj.1 heq)
  exact ⟨beq_eq_false_iff_ne.2 hne, beq_eq_false_iff_ne.2 hne.symm⟩

/-- Numbers match where they are the same or alias each other as doubles. -/
theorem matchesFilter_numbers {m n : Number} (hm : m.isFinite) :
    (Value.number n).matchesFilter (.number m) ↔
      Value.number n = .number m ∨ Alias (.number m) (.number n) := by
  have hdoubles : (Value.number n).matchesFilter (.number m) = (n.toFloat == m.toFloat) := rfl
  rw [hdoubles]
  constructor
  · intro h
    by_cases hsame : m = n
    · exact Or.inl (by rw [hsame])
    · exact Or.inr (.numbers hsame h)
  · rintro (h | h)
    · cases h
      exact toFloat_beq_self hm
    · cases h with
      | numbers _ h => exact h

/-- Texts match where they are the same. -/
theorem matchesFilter_texts (s s' : String) :
    (Value.string s).matchesFilter (.string s') = (s == s') := by
  unfold Value.matchesFilter
  split
  · rfl
  · rfl

/-- The only text that matches a filter by null is `null`. -/
theorem matchesFilter_text_null (s : String) :
    (Value.string s).matchesFilter .null = (s == "null") := by
  unfold Value.matchesFilter
  split
  · rename_i hnumber
    cases hnumber
  · rfl

/-- Null matches the text `null` alone. -/
theorem matchesFilter_null_text (s : String) :
    Value.null.matchesFilter (.string s) = ("null" == s) :=
  rfl

/-- The cells of a column of truth values are truth values and nulls. -/
theorem word_of_holds {v : Value} (h : CellKind.truth.holds v) : v.isWord := by
  cases v with
  | null => rfl
  | bool b => rfl
  | _ => cases h

/-- The cells of a column of numbers are finite numbers and nulls. -/
theorem number_of_holds {v : Value} (h : CellKind.number.holds v) :
    v = .null ∨ ∃ n, v = .number n ∧ n.isFinite := by
  cases v with
  | null => exact Or.inl rfl
  | number n => exact Or.inr ⟨n, rfl, h⟩
  | _ => cases h

/-- The cells of a column of texts are texts and nulls. -/
theorem text_of_holds {v : Value} (h : CellKind.text.holds v) :
    v = .null ∨ ∃ s, v = .string s := by
  cases v with
  | null => exact Or.inl rfl
  | string s => exact Or.inr ⟨s, rfl⟩
  | _ => cases h

/-- In a column of numbers, cells match where they are the same or alias each other. -/
theorem matchesFilter_number_kind {v w : Value} (hv : CellKind.number.holds v)
    (hw : CellKind.number.holds w) : w.matchesFilter v ↔ w = v ∨ Alias v w := by
  rcases number_of_holds hv with rfl | ⟨m, rfl, hm⟩
  · rcases number_of_holds hw with rfl | ⟨n, rfl, hn⟩
    · exact matchesFilter_words rfl rfl
    · rw [(matchesFilter_number_null hn).1]
      constructor
      · intro h
        cases h
      · intro h
        rcases h with h | h
        · cases h
        · cases h
  · rcases number_of_holds hw with rfl | ⟨n, rfl, hn⟩
    · rw [(matchesFilter_number_null hm).2]
      constructor
      · intro h
        cases h
      · intro h
        rcases h with h | h
        · cases h
        · cases h
    · exact matchesFilter_numbers hm

/-- In a column of texts, cells match where they are the same or alias each other. -/
theorem matchesFilter_text_kind {v w : Value} (hv : CellKind.text.holds v)
    (hw : CellKind.text.holds w) : w.matchesFilter v ↔ w = v ∨ Alias v w := by
  rcases text_of_holds hv with rfl | ⟨s, rfl⟩
  · rcases text_of_holds hw with rfl | ⟨s', rfl⟩
    · exact matchesFilter_words rfl rfl
    · rw [matchesFilter_text_null, beq_iff_eq]
      constructor
      · intro h
        subst h
        exact Or.inr .textForNull
      · intro h
        rcases h with h | h
        · cases h
        · cases h
          rfl
  · rcases text_of_holds hw with rfl | ⟨s', rfl⟩
    · rw [matchesFilter_null_text, beq_iff_eq]
      constructor
      · intro h
        subst h
        exact Or.inr .nullForText
      · intro h
        rcases h with h | h
        · cases h
        · cases h
          rfl
    · rw [matchesFilter_texts, beq_iff_eq]
      constructor
      · intro h
        subst h
        exact Or.inl rfl
      · intro h
        rcases h with h | h
        · cases h
          rfl
        · cases h

/-- Within one column a filter keeps its own value and what it takes for it. -/
theorem matchesFilter_iff {kind : CellKind} {v w : Value} (hv : kind.holds v)
    (hw : kind.holds w) : w.matchesFilter v ↔ w = v ∨ Alias v w := by
  cases kind with
  | truth => exact matchesFilter_words (word_of_holds hv) (word_of_holds hw)
  | number => exact matchesFilter_number_kind hv hw
  | text => exact matchesFilter_text_kind hv hw

/-! ## What a label tells apart -/

/-- Two values of one column that a label does not tell apart: they are the same, or one of them is
null and the other one the text `null`. -/
def LooksLike (v w : Value) : Prop :=
  v = w ∨ (v = .null ∧ w = .string "null") ∨ (v = .string "null" ∧ w = .null)

/-- The label of a value without quotes is its JSON text. -/
theorem label_of_isBare {v : Value} (h : v.isBare) : v.label = v.compress := by
  cases v with
  | string s => cases h
  | _ => rfl

/-- Values without quotes have the same label exactly where they look alike. -/
theorem label_bare_eq_iff {v w : Value} (hv : v.isBare) (hw : w.isBare) :
    v.label = w.label ↔ LooksLike v w := by
  rw [label_of_isBare hv, label_of_isBare hw]
  constructor
  · intro h
    exact .inl (Value.chars_injective_of_isBare hv hw (String.ofList_inj.1 h))
  · rintro (rfl | ⟨-, rfl⟩ | ⟨rfl, -⟩)
    · rfl
    · cases hw
    · cases hv

/-- In a column of texts, cells have the same label exactly where they look alike. -/
theorem label_text_eq_iff {v w : Value} (hv : CellKind.text.holds v)
    (hw : CellKind.text.holds w) : v.label = w.label ↔ LooksLike v w := by
  have hnull : Value.null.label = "null" := rfl
  rcases text_of_holds hv with rfl | ⟨s, rfl⟩
  · rcases text_of_holds hw with rfl | ⟨s', rfl⟩
    · exact ⟨fun _ => .inl rfl, fun _ => rfl⟩
    · rw [hnull]
      constructor
      · rintro rfl
        exact .inr (.inl ⟨rfl, rfl⟩)
      · rintro (h | ⟨-, h⟩ | ⟨h, -⟩)
        · cases h
        · cases h
          rfl
        · cases h
  · rcases text_of_holds hw with rfl | ⟨s', rfl⟩
    · rw [hnull]
      constructor
      · rintro rfl
        exact .inr (.inr ⟨rfl, rfl⟩)
      · rintro (h | ⟨h, -⟩ | ⟨h, -⟩)
        · cases h
        · cases h
        · cases h
          rfl
    · constructor
      · rintro rfl
        exact .inl rfl
      · rintro (h | ⟨h, -⟩ | ⟨-, h⟩)
        · cases h
          rfl
        · cases h
        · cases h

/-- Within one column labels tell all values apart but null and the text `null`. -/
theorem label_eq_iff {kind : CellKind} {v w : Value} (hv : kind.holds v) (hw : kind.holds w) :
    v.label = w.label ↔ LooksLike v w := by
  have hbare : ∀ {u : Value}, (kind = .truth ∨ kind = .number) → kind.holds u → u.isBare := by
    intro u hkind hu
    rcases hkind with rfl | rfl
    · rcases Value.eq_of_isWord (word_of_holds hu) with rfl | rfl | rfl <;> rfl
    · rcases number_of_holds hu with rfl | ⟨n, rfl, hn⟩
      · rfl
      · exact hn
  cases kind with
  | truth => exact label_bare_eq_iff (hbare (.inl rfl) hv) (hbare (.inl rfl) hw)
  | number => exact label_bare_eq_iff (hbare (.inr rfl) hv) (hbare (.inr rfl) hw)
  | text => exact label_text_eq_iff hv hw

end Chartboard
