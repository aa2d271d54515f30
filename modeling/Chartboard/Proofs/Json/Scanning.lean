import Chartboard.Proofs.Json.Layout
import Chartboard.Proofs.Json.Numbers

/-!
# Written values read back

The text of a value is read as the tree of the value, whatever its layout, if its numbers are read
back. The recursion of the reader follows that of the writer, and every step of it takes a character
at least, so the text is long enough to pay for the reading of it.
-/

namespace Chartboard.Json

namespace Value

mutual

/-- The numbers in a value. -/
def numbers : Value → List Number
  | number n => [n]
  | array items => itemsNumbers items
  | object members => membersNumbers members
  | null | bool _ | string _ => []

/-- The numbers in items. -/
def itemsNumbers : List Value → List Number
  | [] => []
  | v :: rest => numbers v ++ itemsNumbers rest

/-- The numbers in the values of members. -/
def membersNumbers : List (String × Value) → List Number
  | [] => []
  | (_, v) :: rest => numbers v ++ membersNumbers rest

end

/-- The numbers of two lists of members are those of the one and those of the other. -/
theorem membersNumbers_append (members others : List (String × Value)) :
    membersNumbers (members ++ others) = membersNumbers members ++ membersNumbers others := by
  induction members with
  | nil => rfl
  | cons member rest ih =>
    obtain ⟨k, v⟩ := member
    rw [List.cons_append, membersNumbers, membersNumbers, ih, List.append_assoc]

/-- Items none of which holds a number hold none. -/
theorem itemsNumbers_map_eq_nil {α : Type} {write : α → Value} (h : ∀ a, (write a).numbers = [])
    (xs : List α) : itemsNumbers (xs.map write) = [] := by
  induction xs with
  | nil => rfl
  | cons x xs ih => rw [List.map_cons, itemsNumbers, h, ih, List.append_nil]

/-- A number of some items is one of an item. -/
theorem mem_itemsNumbers {n : Number} {items : List Value} (h : n ∈ itemsNumbers items) :
    ∃ v ∈ items, n ∈ v.numbers := by
  induction items with
  | nil => cases h
  | cons v rest ih =>
    rw [itemsNumbers, List.mem_append] at h
    rcases h with h | h
    · exact ⟨v, List.mem_cons_self, h⟩
    · obtain ⟨w, hw, hn⟩ := ih h
      exact ⟨w, List.mem_cons_of_mem v hw, hn⟩

mutual

/-- The integers in a canonical value stay integers. -/
theorem inRange_of_mem_numbers {i : Int} : ∀ {v : Value}, v.isCanonical → .int i ∈ v.numbers →
    Number.inRange i
  | .number n, hcanonical, h => by
    rw [numbers, List.mem_singleton] at h
    subst h
    exact hcanonical
  | .array _, hcanonical, h => inRange_of_mem_itemsNumbers hcanonical h
  | .object _, hcanonical, h =>
    inRange_of_mem_membersNumbers (Bool.and_eq_true_iff.1 hcanonical).2 h
  | .null, _, h | .bool _, _, h | .string _, _, h => by cases h

/-- The integers of canonical items are in range. -/
theorem inRange_of_mem_itemsNumbers {i : Int} : ∀ {items : List Value}, areCanonical items →
    .int i ∈ itemsNumbers items → Number.inRange i
  | [], _, h => by cases h
  | v :: items, hcanonical, h => by
    obtain ⟨hv, hitems⟩ := Bool.and_eq_true_iff.1 hcanonical
    rw [itemsNumbers, List.mem_append] at h
    exact h.elim (inRange_of_mem_numbers hv) (inRange_of_mem_itemsNumbers hitems)

/-- The integers of canonical members are in range. -/
theorem inRange_of_mem_membersNumbers {i : Int} : ∀ {members : List (String × Value)},
    membersCanonical members → .int i ∈ membersNumbers members → Number.inRange i
  | [], _, h => by cases h
  | (_, v) :: members, hcanonical, h => by
    obtain ⟨hv, hmembers⟩ := Bool.and_eq_true_iff.1 hcanonical
    rw [membersNumbers, List.mem_append] at h
    exact h.elim (inRange_of_mem_numbers hv) (inRange_of_mem_membersNumbers hmembers)

end

/-- A number is read back if it is an integer that stays one or a double that is read back. -/
theorem numbers_readBack {v : Value} (hints : ∀ i, .int i ∈ v.numbers → Number.inRange i)
    (hfloats : ∀ x, .float x ∈ v.numbers → (Number.float x).ReadsBack) :
    ∀ n ∈ v.numbers, n.ReadsBack := by
  intro n hn
  cases n with
  | int i => exact Number.readsBack_int (hints i hn)
  | float x => exact hfloats x hn

end Value

/-! ## Blanks -/

/-- All blanks in front are skipped. -/
theorem skipBlanks_append {blanks : List Char} (h : ∀ c ∈ blanks, isBlank c = true)
    (cs : List Char) : skipBlanks (blanks ++ cs) = skipBlanks cs := by
  rw [skipBlanks, List.dropWhile_append_of_pos h, ← skipBlanks]

/-- No number goes on with a blank. -/
theorem endsNumber_append {blanks rest : List Char} (h : ∀ c ∈ blanks, isBlank c = true)
    (hrest : endsNumber rest) : endsNumber (blanks ++ rest) := by
  cases blanks with
  | nil => exact hrest
  | cons c cs =>
    have hc : c = ' ' ∨ c = '\n' ∨ c = '\t' ∨ c = '\r' := by
      simpa [isBlank, or_assoc] using h c List.mem_cons_self
    rcases hc with rfl | rfl | rfl | rfl
    all_goals rfl

namespace Tree

/-- Blanks in front of a value are skipped. -/
theorem scan_congr {cs ds : List Char} (h : skipBlanks cs = skipBlanks ds) (fuel : Nat) :
    scan fuel cs = scan fuel ds := by
  cases fuel with
  | zero => rfl
  | succ fuel => rw [scan, scan, h]

/-! ## Scalars -/

/-- The word `null` is read. -/
theorem scan_null (fuel : Nat) (rest : List Char) :
    scan (fuel + 1) ("null".toList ++ rest) = (null, some rest) := by
  rw [scan]
  rfl

/-- The word `true` is read. -/
theorem scan_true (fuel : Nat) (rest : List Char) :
    scan (fuel + 1) ("true".toList ++ rest) = (bool true, some rest) := by
  rw [scan]
  rfl

/-- The word `false` is read. -/
theorem scan_false (fuel : Nat) (rest : List Char) :
    scan (fuel + 1) ("false".toList ++ rest) = (bool false, some rest) := by
  rw [scan]
  rfl

/-- A quoted text is read as the text. -/
theorem scan_quote (s : String) (fuel : Nat) (rest : List Char) :
    scan (fuel + 1) (quote s ++ rest) = (string s, some rest) := by
  have hquote : quote s ++ rest = '"' :: (s.toList.flatMap escapeChar ++ '"' :: rest) := by
    rw [quote, List.cons_append, List.append_assoc]
    rfl
  rw [hquote, scan]
  show scanString _ = _
  rw [scanString, lexString_quoted]

/-! ## Items and members -/

section Steps

variable {layout : Layout} {fuel level : Nat} {text more rest : List Char} {item value : Tree}
  {items : List Tree} {members : List (Key × Tree)} {key : String}

/-- The text begins with a character that is no blank and does not end an array. -/
def Begins (text : List Char) : Prop :=
  ∃ c cs, text = c :: cs ∧ isBlank c = false ∧ c ≠ ']'

/-- An item is read, and then those behind it. -/
theorem scanItem_of (hitem : scan fuel (text ++ more) = (item, some more))
    (hitems : scanItems fuel false more = (items, none, some rest)) :
    scanItem (fuel + 1) (text ++ more) = (item :: items, none, some rest) := by
  rw [scanItem, hitem]
  dsimp only
  rw [hitems]

/-- The first item stands behind a gap. -/
theorem scanItems_first (hbegins : Begins text)
    (hitem : scan fuel (text ++ more) = (item, some more))
    (hitems : scanItems fuel false more = (items, none, some rest)) :
    scanItems (fuel + 2) true (layout.gap level ++ (text ++ more)) =
      (item :: items, none, some rest) := by
  rw [← scanItem_of hitem hitems]
  obtain ⟨c, cs, rfl, hblank, hend⟩ := hbegins
  rw [scanItems, skipBlanks_append (layout.gap_blank level), List.cons_append,
    skipBlanks_of_not_isBlank hblank]
  split
  · next heq => cases heq
  · next heq => cases heq; exact absurd rfl hend
  · next heq => cases heq; rfl

/-- Every other item stands behind a comma and a gap. -/
theorem scanItems_next (hbegins : Begins text)
    (hitem : scan fuel (text ++ more) = (item, some more))
    (hitems : scanItems fuel false more = (items, none, some rest)) :
    scanItems (fuel + 2) false (',' :: (layout.gap level ++ (text ++ more))) =
      (item :: items, none, some rest) := by
  rw [← scanItem_of hitem hitems]
  obtain ⟨c, cs, rfl, hblank, hend⟩ := hbegins
  rw [scanItems, skipBlanks_of_not_isBlank (by decide)]
  split
  · next heq => cases heq
  · next heq => cases heq
  · next heq =>
    cases heq
    rw [if_neg Bool.false_ne_true, if_pos rfl, skipBlanks_append (layout.gap_blank level),
      List.cons_append, skipBlanks_of_not_isBlank hblank]
    split
    · next heq => cases heq
    · next heq => cases heq; exact absurd rfl hend
    · rfl

/-- A closing bracket ends the items. -/
theorem scanItems_end (layout : Layout) (fuel level : Nat) (rest : List Char) :
    scanItems (fuel + 1) false (layout.gap level ++ ']' :: rest) = ([], none, some rest) := by
  rw [scanItems, skipBlanks_append (layout.gap_blank level)]
  rfl

/-- Items behind an opening bracket are read as an array. -/
theorem scan_array (h : scanItems fuel true text = (items, none, some rest)) :
    scan (fuel + 1) ('[' :: text) = (array items none, some rest) := by
  rw [scan]
  show (array (scanItems fuel true text).1 (scanItems fuel true text).2.1,
    (scanItems fuel true text).2.2) = _
  rw [h]

/-- A member is its quoted key, a colon, blanks and its value. -/
def memberText (layout : Layout) (key : String) (text : List Char) : List Char :=
  key.toList.flatMap escapeChar ++ '"' :: ':' :: (layout.space ++ text)

/-- A member is read from behind the quote of its key, and then those behind it. -/
theorem scanMember_of (layout : Layout) (hvalue : scan fuel (text ++ more) = (value, some more))
    (hmembers : scanMembers fuel false more = (members, none, some rest)) :
    scanMember (fuel + 1) (memberText layout key (text ++ more)) =
      ((.ok key, value) :: members, none, some rest) := by
  have hspace : scan fuel (layout.space ++ (text ++ more)) = (value, some more) := by
    rw [scan_congr (skipBlanks_append layout.space_blank _), hvalue]
  rw [scanMember, memberText, lexString_quoted]
  dsimp only
  rw [skipBlanks_of_not_isBlank (by decide)]
  simp only [hspace, hmembers]

/-- The first member stands behind a gap. -/
theorem scanMembers_first (hvalue : scan fuel (text ++ more) = (value, some more))
    (hmembers : scanMembers fuel false more = (members, none, some rest)) :
    scanMembers (fuel + 2) true
        (layout.gap level ++ '"' :: memberText layout key (text ++ more)) =
      ((.ok key, value) :: members, none, some rest) := by
  rw [← scanMember_of layout hvalue hmembers, scanMembers,
    skipBlanks_append (layout.gap_blank level)]
  rfl

/-- Every other member stands behind a comma and a gap. -/
theorem scanMembers_next (hvalue : scan fuel (text ++ more) = (value, some more))
    (hmembers : scanMembers fuel false more = (members, none, some rest)) :
    scanMembers (fuel + 2) false
        (',' :: (layout.gap level ++ '"' :: memberText layout key (text ++ more))) =
      ((.ok key, value) :: members, none, some rest) := by
  rw [← scanMember_of layout hvalue hmembers, scanMembers,
    skipBlanks_of_not_isBlank (by decide)]
  split
  · next heq => cases heq
  · next heq => cases heq
  · next heq =>
    cases heq
    rw [if_neg Bool.false_ne_true, if_pos rfl, skipBlanks_append (layout.gap_blank level)]
    rfl

/-- A closing brace ends the members. -/
theorem scanMembers_end (layout : Layout) (fuel level : Nat) (rest : List Char) :
    scanMembers (fuel + 1) false (layout.gap level ++ '\x7d' :: rest) =
      ([], none, some rest) := by
  rw [scanMembers, skipBlanks_append (layout.gap_blank level)]
  rfl

/-- Members behind an opening brace are read as an object. -/
theorem scan_object (h : scanMembers fuel true text = (members, none, some rest)) :
    scan (fuel + 1) ('\x7b' :: text) = (object members none, some rest) := by
  rw [scan]
  show (object (scanMembers fuel true text).1 (scanMembers fuel true text).2.1,
    (scanMembers fuel true text).2.2) = _
  rw [h]

/-- A member is its quoted key, a colon and its value. -/
theorem quote_append_memberText (layout : Layout) (key : String) (text more rest : List Char) :
    quote key ++ ':' :: (layout.space ++ (text ++ more)) ++ rest =
      '"' :: memberText layout key (text ++ (more ++ rest)) := by
  rw [quote, memberText]
  simp only [List.cons_append, List.append_assoc, List.nil_append]

end Steps

/-! ## Values -/

section Values

variable (layout : Layout)

/-- What is laid out of a value begins with a character that is not blank. -/
theorem begins_laidOut {v : Value} (h : ∀ n ∈ v.numbers, n.ReadsBack) (level : Nat) :
    Begins (v.laidOut layout level) := by
  cases v with
  | null => exact ⟨'n', _, by rw [Value.laidOut]; rfl, by decide, by decide⟩
  | bool b =>
    cases b with
    | true => exact ⟨'t', _, by rw [Value.laidOut]; rfl, by decide, by decide⟩
    | false => exact ⟨'f', _, by rw [Value.laidOut]; rfl, by decide, by decide⟩
  | number n =>
    have hfinite : n.isFinite :=
      (h n (by rw [Value.numbers]; exact List.mem_singleton_self n)).isFinite
    obtain ⟨c, cs, hcs⟩ := List.exists_cons_of_ne_nil (Number.text_ne_nil hfinite)
    have hmem : c ∈ n.text.toList := by
      rw [hcs]
      exact List.mem_cons_self
    have hc := Number.isNumeral_text hfinite hmem
    refine ⟨c, cs, by rw [Value.laidOut, hcs], isBlank_of_isNumeral hc, ?_⟩
    rintro rfl
    cases hc
  | string s => exact ⟨'"', _, by rw [Value.laidOut, quote], by decide, by decide⟩
  | array items =>
    cases items with
    | nil => exact ⟨'[', _, by rw [Value.laidOut], by decide, by decide⟩
    | cons v rest => exact ⟨'[', _, by rw [Value.laidOut], by decide, by decide⟩
  | object members =>
    cases members with
    | nil => exact ⟨'\x7b', _, by rw [Value.laidOut], by decide, by decide⟩
    | cons member rest => exact ⟨'\x7b', _, by rw [Value.laidOut], by decide, by decide⟩

/-- No number goes on behind an item. -/
theorem endsNumber_itemsLaidOut (level : Nat) (items : List Value) (rest : List Char) :
    endsNumber (Value.itemsLaidOut layout level items ++ rest) := by
  cases items with
  | nil =>
    rw [Value.itemsLaidOut, List.append_assoc]
    exact endsNumber_append (layout.gap_blank level) rfl
  | cons v items => rw [Value.itemsLaidOut]; rfl

/-- No number goes on behind a member. -/
theorem endsNumber_membersLaidOut (level : Nat) (members : List (String × Value))
    (rest : List Char) : endsNumber (Value.membersLaidOut layout level members ++ rest) := by
  cases members with
  | nil =>
    rw [Value.membersLaidOut, List.append_assoc]
    exact endsNumber_append (layout.gap_blank level) rfl
  | cons member members => rw [Value.membersLaidOut]; rfl

/-- The characters of a text pay for the steps of reading it. -/
theorem exists_fuel {fuel length : Nat} (hlength : 0 < length) (h : 3 * length ≤ fuel) :
    ∃ less, fuel = less + 3 :=
  ⟨fuel - 3, by omega⟩

mutual

/-- The text of a value is read as the tree of the value, and reading goes on behind it. -/
theorem scan_laidOut : ∀ (v : Value) (level : Nat) {fuel : Nat} {rest : List Char},
    (∀ n ∈ v.numbers, n.ReadsBack) → endsNumber rest →
    3 * (v.laidOut layout level).length ≤ fuel →
    scan fuel (v.laidOut layout level ++ rest) = (ofValue v, some rest)
  | .null, level, fuel, rest, _, _, hfuel => by
    rw [Value.laidOut] at hfuel ⊢
    obtain ⟨fuel, rfl⟩ := exists_fuel (by decide) hfuel
    exact scan_null (fuel + 2) rest
  | .bool true, level, fuel, rest, _, _, hfuel => by
    rw [Value.laidOut] at hfuel ⊢
    obtain ⟨fuel, rfl⟩ := exists_fuel (by decide) hfuel
    exact scan_true (fuel + 2) rest
  | .bool false, level, fuel, rest, _, _, hfuel => by
    rw [Value.laidOut] at hfuel ⊢
    obtain ⟨fuel, rfl⟩ := exists_fuel (by decide) hfuel
    exact scan_false (fuel + 2) rest
  | .number n, level, fuel, rest, hnumbers, hrest, hfuel => by
    have hn : n.ReadsBack := hnumbers n (by rw [Value.numbers]; exact List.mem_singleton_self n)
    rw [Value.laidOut] at hfuel ⊢
    obtain ⟨fuel, rfl⟩ :=
      exists_fuel (List.length_pos_of_ne_nil (Number.text_ne_nil hn.isFinite)) hfuel
    exact hn.scan hrest (fuel + 2)
  | .string s, level, fuel, rest, _, _, hfuel => by
    rw [Value.laidOut] at hfuel ⊢
    obtain ⟨fuel, rfl⟩ := exists_fuel (Nat.succ_pos _) hfuel
    exact scan_quote s (fuel + 2) rest
  | .array [], level, fuel, rest, _, _, hfuel => by
    rw [Value.laidOut] at hfuel ⊢
    obtain ⟨fuel, rfl⟩ := exists_fuel (by decide) hfuel
    exact scan_array rfl
  | .array (v :: items), level, fuel, rest, hnumbers, hrest, hfuel => by
    rw [Value.numbers, Value.itemsNumbers, List.forall_mem_append] at hnumbers
    obtain ⟨hv, hitems⟩ := hnumbers
    rw [Value.laidOut] at hfuel ⊢
    obtain ⟨fuel, rfl⟩ := exists_fuel (Nat.succ_pos _) hfuel
    simp only [List.length_cons, List.length_append] at hfuel
    rw [List.cons_append, List.append_assoc, List.append_assoc]
    exact scan_array (scanItems_first (begins_laidOut layout hv _)
      (scan_laidOut v (level + 1) hv (endsNumber_itemsLaidOut layout level items rest) (by omega))
      (scanItems_itemsLaidOut items level hitems (by omega)))
  | .object [], level, fuel, rest, _, _, hfuel => by
    rw [Value.laidOut] at hfuel ⊢
    obtain ⟨fuel, rfl⟩ := exists_fuel (by decide) hfuel
    exact scan_object rfl
  | .object ((k, v) :: members), level, fuel, rest, hnumbers, hrest, hfuel => by
    rw [Value.numbers, Value.membersNumbers, List.forall_mem_append] at hnumbers
    obtain ⟨hv, hmembers⟩ := hnumbers
    rw [Value.laidOut] at hfuel ⊢
    obtain ⟨fuel, rfl⟩ := exists_fuel (Nat.succ_pos _) hfuel
    simp only [List.length_cons, List.length_append] at hfuel
    rw [List.cons_append, List.append_assoc (layout.gap _), quote_append_memberText]
    exact scan_object (scanMembers_first
      (scan_laidOut v (level + 1) hv (endsNumber_membersLaidOut layout level members rest)
        (by omega))
      (scanMembers_membersLaidOut members level hmembers (by omega)))

/-- Items are read back from what is laid out of them. -/
theorem scanItems_itemsLaidOut : ∀ (items : List Value) (level : Nat) {fuel : Nat}
    {rest : List Char}, (∀ n ∈ Value.itemsNumbers items, n.ReadsBack) →
    3 * (Value.itemsLaidOut layout level items).length ≤ fuel →
    scanItems fuel false (Value.itemsLaidOut layout level items ++ rest) =
      (ofItems items, none, some rest)
  | [], level, fuel, rest, _, hfuel => by
    rw [Value.itemsLaidOut] at hfuel ⊢
    obtain ⟨fuel, rfl⟩ := exists_fuel (by rw [List.length_append]; exact Nat.succ_pos _) hfuel
    rw [List.append_assoc]
    exact scanItems_end layout (fuel + 2) level rest
  | v :: items, level, fuel, rest, hnumbers, hfuel => by
    rw [Value.itemsNumbers, List.forall_mem_append] at hnumbers
    obtain ⟨hv, hitems⟩ := hnumbers
    rw [Value.itemsLaidOut] at hfuel ⊢
    obtain ⟨fuel, rfl⟩ := exists_fuel (Nat.succ_pos _) hfuel
    simp only [List.length_cons, List.length_append] at hfuel
    rw [List.cons_append, List.append_assoc, List.append_assoc]
    exact scanItems_next (begins_laidOut layout hv _)
      (scan_laidOut v (level + 1) hv (endsNumber_itemsLaidOut layout level items rest) (by omega))
      (scanItems_itemsLaidOut items level hitems (by omega))

/-- Members are read back from what is laid out of them. -/
theorem scanMembers_membersLaidOut : ∀ (members : List (String × Value)) (level : Nat) {fuel : Nat}
    {rest : List Char}, (∀ n ∈ Value.membersNumbers members, n.ReadsBack) →
    3 * (Value.membersLaidOut layout level members).length ≤ fuel →
    scanMembers fuel false (Value.membersLaidOut layout level members ++ rest) =
      (ofMembers members, none, some rest)
  | [], level, fuel, rest, _, hfuel => by
    rw [Value.membersLaidOut] at hfuel ⊢
    obtain ⟨fuel, rfl⟩ := exists_fuel (by rw [List.length_append]; exact Nat.succ_pos _) hfuel
    rw [List.append_assoc]
    exact scanMembers_end layout (fuel + 2) level rest
  | (k, v) :: members, level, fuel, rest, hnumbers, hfuel => by
    rw [Value.membersNumbers, List.forall_mem_append] at hnumbers
    obtain ⟨hv, hmembers⟩ := hnumbers
    rw [Value.membersLaidOut] at hfuel ⊢
    obtain ⟨fuel, rfl⟩ := exists_fuel (Nat.succ_pos _) hfuel
    simp only [List.length_cons, List.length_append] at hfuel
    rw [List.cons_append, List.append_assoc (layout.gap _), quote_append_memberText]
    exact scanMembers_next
      (scan_laidOut v (level + 1) hv (endsNumber_membersLaidOut layout level members rest)
        (by omega))
      (scanMembers_membersLaidOut members level hmembers (by omega))

end

/-- A value whose numbers are read back is read from its text as it is, whatever the layout, and
nothing is left of the text. -/
theorem ofText_laidOut {v : Value} (h : ∀ n ∈ v.numbers, n.ReadsBack) :
    ofText (String.ofList (v.laidOut layout 0)) = (ofValue v, true) := by
  have hscan := @scan_laidOut layout v 0 (3 * (v.laidOut layout 0).length + 3) [] h rfl (by omega)
  rw [List.append_nil] at hscan
  rw [ofText, String.toList_ofList, hscan]
  rfl

end Values

/-- A value is read back from its pretty form. -/
theorem ofText_pretty {v : Value} (h : ∀ n ∈ v.numbers, n.ReadsBack) :
    ofText v.pretty = (ofValue v, true) := by
  rw [Value.pretty, Value.prettyChars_eq]
  exact ofText_laidOut .lines h

/-- A value is read back from its compressed form. -/
theorem ofText_compress {v : Value} (h : ∀ n ∈ v.numbers, n.ReadsBack) :
    ofText v.compress = (ofValue v, true) := by
  rw [Value.compress, Value.chars_eq v 0]
  exact ofText_laidOut .compact h

end Tree

end Chartboard.Json
