import Chartboard.Json.Printer
import Chartboard.Json.Tree

/-!
# Layouts

The compact text of a value and the one over several lines differ in their blanks only. Both are the
text in a layout, which says the blanks that stand in front of items and members and behind colons.
-/

namespace Chartboard.Json

/-- The blanks of a text. -/
structure Layout where
  /-- In front of an item, a member or the end of a container, at a level of nesting. -/
  gap : Nat → List Char
  /-- Behind the colon of a member. -/
  space : List Char
  /-- Nothing but blanks stands in a gap. -/
  gap_blank : ∀ level, ∀ c ∈ gap level, isBlank c = true
  /-- Nothing but blanks stands behind a colon. -/
  space_blank : ∀ c ∈ space, isBlank c = true

namespace Layout

/-- No blanks at all. -/
def compact : Layout where
  gap _ := []
  space := []
  gap_blank _ _ h := nomatch h
  space_blank _ h := nomatch h

/-- A new line and its indentation are blanks. -/
theorem newLine_blank (level : Nat) : ∀ c ∈ Value.newLine level, isBlank c = true := by
  intro c hc
  rcases List.mem_cons.1 hc with rfl | hc
  · rfl
  · rw [(List.mem_replicate.1 hc).2]
    rfl

/-- One item or member a line, indented. -/
def lines : Layout where
  gap := Value.newLine
  space := [' ']
  gap_blank := newLine_blank
  space_blank c h := by
    rw [List.mem_singleton.1 h]
    rfl

end Layout

namespace Value

variable (layout : Layout)

mutual

/-- The text of a value in a layout, at a level of nesting. Empty containers hold no blanks. -/
def laidOut (level : Nat) : Value → List Char
  | array (v :: rest) =>
    '[' :: (layout.gap (level + 1) ++ (laidOut (level + 1) v ++ itemsLaidOut level rest))
  | object ((k, v) :: rest) =>
    '\x7b' :: (layout.gap (level + 1) ++ (quote k ++ ':' :: (layout.space ++
      (laidOut (level + 1) v ++ membersLaidOut level rest))))
  | array [] => ['[', ']']
  | object [] => ['\x7b', '\x7d']
  | null => "null".toList
  | bool true => "true".toList
  | bool false => "false".toList
  | number n => n.text.toList
  | string s => quote s

/-- The items after the first and the closing bracket. -/
def itemsLaidOut (level : Nat) : List Value → List Char
  | [] => layout.gap level ++ [']']
  | v :: rest =>
    ',' :: (layout.gap (level + 1) ++ (laidOut (level + 1) v ++ itemsLaidOut level rest))

/-- The members after the first and the closing brace. -/
def membersLaidOut (level : Nat) : List (String × Value) → List Char
  | [] => layout.gap level ++ ['\x7d']
  | (k, v) :: rest =>
    ',' :: (layout.gap (level + 1) ++ (quote k ++ ':' :: (layout.space ++
      (laidOut (level + 1) v ++ membersLaidOut level rest))))

end

/-! ## The two texts of a value -/

mutual

/-- The compact text is the one without blanks, whatever the level. -/
theorem chars_eq : ∀ (v : Value) (level : Nat), v.chars = v.laidOut .compact level
  | .null, _ | .bool true, _ | .bool false, _ | .number _, _ | .string _, _ => by
    rw [chars, laidOut]
  | .array [], _ | .object [], _ => by rw [chars, laidOut]
  | .array (v :: rest), level => by
    rw [chars, laidOut, chars_eq v (level + 1), itemChars_eq rest level]
    rfl
  | .object ((_, v) :: rest), level => by
    rw [chars, laidOut, chars_eq v (level + 1), memberChars_eq rest level]
    rfl

/-- Compressed items are laid out compactly. -/
theorem itemChars_eq : ∀ (items : List Value) (level : Nat),
    itemChars items = itemsLaidOut .compact level items
  | [], _ => by
    rw [itemChars, itemsLaidOut]
    rfl
  | v :: rest, level => by
    rw [itemChars, itemsLaidOut, chars_eq v (level + 1), itemChars_eq rest level]
    rfl

/-- Compressed members are laid out compactly. -/
theorem memberChars_eq : ∀ (members : List (String × Value)) (level : Nat),
    memberChars members = membersLaidOut .compact level members
  | [], _ => by
    rw [memberChars, membersLaidOut]
    rfl
  | (_, v) :: rest, level => by
    rw [memberChars, membersLaidOut, chars_eq v (level + 1), memberChars_eq rest level]
    rfl

end

mutual

/-- The text over several lines is the one whose gaps are new lines. -/
theorem prettyChars_eq : ∀ (v : Value) (level : Nat), v.prettyChars level = v.laidOut .lines level
  | .null, _ | .bool true, _ | .bool false, _ | .number _, _ | .string _, _ => by
    rw [prettyChars, laidOut]
  | .array [], _ | .object [], _ => by rw [prettyChars, laidOut]
  | .array (v :: rest), level => by
    rw [prettyChars, laidOut, prettyChars_eq v (level + 1), prettyItems_eq rest level,
      List.append_assoc]
    rfl
  | .object ((_, v) :: rest), level => by
    rw [prettyChars, laidOut, prettyChars_eq v (level + 1), prettyMembers_eq rest level,
      List.append_assoc]
    rfl

/-- Pretty items are laid out in lines. -/
theorem prettyItems_eq : ∀ (items : List Value) (level : Nat),
    prettyItems level items = itemsLaidOut .lines level items
  | [], _ => by
    rw [prettyItems, itemsLaidOut]
    rfl
  | v :: rest, level => by
    rw [prettyItems, itemsLaidOut, prettyChars_eq v (level + 1), prettyItems_eq rest level,
      List.append_assoc]
    rfl

/-- Pretty members are laid out in lines. -/
theorem prettyMembers_eq : ∀ (members : List (String × Value)) (level : Nat),
    prettyMembers level members = membersLaidOut .lines level members
  | [], _ => by
    rw [prettyMembers, membersLaidOut]
    rfl
  | (_, v) :: rest, level => by
    rw [prettyMembers, membersLaidOut, prettyChars_eq v (level + 1), prettyMembers_eq rest level,
      List.append_assoc]
    rfl

end

end Value

end Chartboard.Json
