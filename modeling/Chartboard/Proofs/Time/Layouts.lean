import Chartboard.Proofs.Text.Trimming
import Chartboard.Time.Layout
import Mathlib.Data.List.Basic
import Mathlib.Data.List.Count

/-!
# Texts and the layouts that take them

No text denotes two moments. Blanks, digits, signs and points may stand in a text in many ways, but
all texts of a layout have the same number of colons and of slashes, and with one exception they
also agree in whether a letter stands in front of the time. Layouts that differ in such a number
share no text at all. Those that do not differ by a fraction at the end, which is not there in a
text that both of them take.
-/

namespace Chartboard

/-- A kind of characters that set layouts apart. -/
inductive Mark where
  /-- A colon, or a letter for universal time, which is there in place of the colon of an offset. -/
  | clock
  /-- A slash. -/
  | slash
  /-- The letter in front of a time. -/
  | letter
  deriving DecidableEq

namespace Mark

/-- All kinds. -/
def all : List Mark := [clock, slash, letter]

/-- The characters of the kind. -/
def chars : Mark → List Char
  | clock => [':', 'Z', 'z']
  | slash => ['/']
  | letter => ['T']

/-- How many characters of the kind there are in a text. -/
def count (mark : Mark) (cs : List Char) : Nat :=
  cs.countP mark.chars.contains

variable {mark : Mark} {p : Char → Bool} {c : Char} {cs : List Char}

/-- A mark is counted in both parts of a text. -/
theorem count_append (left right : List Char) :
    mark.count (left ++ right) = mark.count left + mark.count right :=
  List.countP_append

/-- A character that is none of those of the mark is not counted. -/
theorem count_cons_of_not_mem (h : c ∉ mark.chars) : mark.count (c :: cs) = mark.count cs :=
  List.countP_cons_of_neg (by simpa using h)

/-- A character of the mark is counted once. -/
theorem count_cons_of_mem (h : c ∈ mark.chars) : mark.count (c :: cs) = 1 + mark.count cs := by
  rw [Nat.add_comm]
  exact List.countP_cons_of_pos (by simpa using h)

/-- Characters of a class without marks do not count. -/
theorem count_eq_zero (hp : ∀ d ∈ mark.chars, p d = false) (h : ∀ c ∈ cs, p c) :
    mark.count cs = 0 := by
  refine List.countP_eq_zero.2 fun c hc hmark => ?_
  have hclass := hp c (by simpa using hmark)
  rw [h c hc] at hclass
  cases hclass

/-- Characters that are skipped are not counted if none of them is of the mark. -/
theorem count_dropWhile (hp : ∀ d ∈ mark.chars, p d = false) (cs : List Char) :
    mark.count (cs.dropWhile p) = mark.count cs := by
  have hdropped : mark.count (cs.takeWhile p) = 0 :=
    count_eq_zero hp fun c hc => List.mem_takeWhile_imp hc
  have hsplit := congrArg mark.count (List.takeWhile_append_dropWhile (p := p) (l := cs))
  rw [count_append, hdropped, Nat.zero_add] at hsplit
  exact hsplit

/-- A class is without marks if none of the few characters of the kind is in it. -/
theorem forall_chars (h : mark.chars.all (!p ·)) : ∀ d ∈ mark.chars, p d = false := by
  intro d hd
  simpa using List.all_eq_true.1 h d hd

/-- No mark is a digit. -/
theorem not_isDigit (mark : Mark) : ∀ d ∈ mark.chars, d.isDigit = false :=
  forall_chars (by cases mark <;> decide)

/-- No mark is a blank. -/
theorem not_isBlank (mark : Mark) : ∀ d ∈ mark.chars, Text.isBlank d = false :=
  forall_chars (by cases mark <;> decide)

/-- No character is of two kinds. -/
theorem not_mem_of_ne {other : Mark} (h : other ≠ mark) (hc : c ∈ mark.chars) :
    c ∉ other.chars := by
  have hnone : mark.chars.all (!other.chars.contains ·) = true := by
    cases mark <;> cases other <;> first | rfl | exact absurd rfl h
  simpa using forall_chars hnone c hc

end Mark

namespace LayoutItem

variable {mark : Mark} {cs rest : List Char} {n : Nat}

/-! ## Read items -/

/-- The digits of a number are the front of the text, and there is no mark among them. -/
theorem count_of_readNumber {atLeast atMost : Nat}
    (h : readNumber atLeast atMost cs = some (n, rest)) : mark.count cs = mark.count rest := by
  obtain ⟨-, hread⟩ := Option.ite_none_left_eq_some.1 h
  cases hread
  have hfront : (cs.takeWhile Char.isDigit).take atMost <+: cs :=
    (List.take_prefix _ _).trans (List.takeWhile_prefix _)
  have hdigits : mark.count ((cs.takeWhile Char.isDigit).take atMost) = 0 :=
    Mark.count_eq_zero mark.not_isDigit fun c hc =>
      List.mem_takeWhile_imp (List.mem_of_mem_take hc)
  have hsplit := congrArg mark.count (List.take_append_drop
    ((cs.takeWhile Char.isDigit).take atMost).length cs)
  rw [Mark.count_append, ← List.prefix_iff_eq_take.1 hfront, hdigits, Nat.zero_add] at hsplit
  exact hsplit.symm

/-- What is done with a number that was read takes no marks either. -/
theorem count_of_number {atLeast atMost : Nat} {f : Nat × List Char → Moment} {m' : Moment}
    (h : (readNumber atLeast atMost cs).bind (fun read => some (f read, read.2)) =
      some (m', rest)) : mark.count cs = mark.count rest := by
  obtain ⟨number, hnumber, hrest⟩ := Option.bind_eq_some_iff.1 h
  cases hrest
  exact count_of_readNumber hnumber

/-- A year of free width may have a sign, which is no mark. -/
theorem count_of_readFreeYear {m m' : Moment} (h : freeYear.read m cs = some (m', rest)) :
    mark.count cs = mark.count rest := by
  have hsign : ∀ c ∈ ['-', '+'], c ∉ mark.chars := by
    cases mark <;> simp [Mark.chars]
  rw [← Mark.count_dropWhile mark.not_isBlank cs]
  simp only [LayoutItem.read, skipBlanks] at h
  split at h
  · next digits heq =>
    rw [heq, Mark.count_cons_of_not_mem (hsign '-' (by decide))]
    exact count_of_number h
  · next digits heq =>
    rw [heq, Mark.count_cons_of_not_mem (hsign '+' (by decide))]
    exact count_of_number h
  · exact count_of_number h

/-- How many marks of a kind there are in what the item takes. -/
def marks (mark : Mark) : LayoutItem → Nat
  | oneOf chars => if chars.all mark.chars.contains then 1 else 0
  | offset => if mark = .clock then 1 else 0
  | _ => 0

/-- What the item takes has always so many marks of the kind. -/
def isSteady (mark : Mark) : LayoutItem → Bool
  | oneOf chars => chars.all mark.chars.contains || chars.all (!mark.chars.contains ·)
  | _ => true

/-- Reading a sign passes no character of a mark of which there is none in signs. -/
theorem count_of_readSign {negative : Bool} (h : readSign cs = some (negative, rest)) :
    mark.count cs = mark.count rest := by
  unfold readSign at h
  split at h <;> cases h
  all_goals exact Mark.count_cons_of_not_mem (by cases mark <;> decide)

/-- An offset has one mark for clocks: its colon, or the letter for universal time. -/
theorem count_of_readOffset {m m' : Moment} (h : offset.read m cs = some (m', rest)) :
    mark.count cs = offset.marks mark + mark.count rest := by
  have hclock : ∀ c ∈ Mark.clock.chars, ∀ after,
      mark.count (c :: after) = offset.marks mark + mark.count after := by
    intro c hc after
    show _ = (if mark = .clock then 1 else 0) + _
    split
    · next hmark =>
      subst hmark
      exact Mark.count_cons_of_mem hc
    · next hmark =>
      rw [Mark.count_cons_of_not_mem (Mark.not_mem_of_ne hmark hc), Nat.zero_add]
  simp only [LayoutItem.read] at h
  split at h
  · cases h
    exact hclock 'Z' (by decide) rest
  · cases h
    exact hclock 'z' (by decide) rest
  · obtain ⟨⟨negative, afterSign⟩, hsign, h⟩ := Option.bind_eq_some_iff.1 h
    obtain ⟨⟨hours, afterHours⟩, hhours, h⟩ := Option.bind_eq_some_iff.1 h
    rw [count_of_readSign hsign, count_of_readNumber hhours]
    dsimp only at h
    split at h
    · next afterColon =>
      obtain ⟨minutes, hminutes, h⟩ := Option.bind_eq_some_iff.1 h
      obtain ⟨-, h⟩ := Option.ite_none_right_eq_some.1 h
      cases h
      rw [hclock ':' (by decide), count_of_readNumber hminutes]
    · cases h

/-- A read item has taken as many marks as it always takes. -/
theorem count_of_read {item : LayoutItem} {m m' : Moment} (hsteady : item.isSteady mark)
    (h : item.read m cs = some (m', rest)) :
    mark.count cs = item.marks mark + mark.count rest := by
  have hblanks := Mark.count_dropWhile mark.not_isBlank cs
  cases item with
  | freeYear => exact (count_of_readFreeYear h).trans (Nat.zero_add _).symm
  | free part =>
    show _ = 0 + _
    rw [Nat.zero_add, ← hblanks]
    exact count_of_number h
  | exact part digits => exact (count_of_number h).trans (Nat.zero_add _).symm
  | oneOf chars =>
    cases cs with
    | nil => cases h
    | cons c after =>
      obtain ⟨hmem, h⟩ := Option.ite_none_right_eq_some.1 h
      cases h
      rw [List.contains_iff_mem] at hmem
      simp only [isSteady, Bool.or_eq_true] at hsteady
      by_cases hall : chars.all mark.chars.contains
      · simp only [marks, if_pos hall]
        exact Mark.count_cons_of_mem (by simpa using List.all_eq_true.1 hall c hmem)
      · have hnone := hsteady.resolve_left hall
        simp only [marks, if_neg hall, Nat.zero_add]
        exact Mark.count_cons_of_not_mem (by simpa using List.all_eq_true.1 hnone c hmem)
  | blanks =>
    cases h
    show _ = 0 + _
    rw [Nat.zero_add, ← hblanks]
    rfl
  | fraction =>
    show _ = 0 + _
    rw [Nat.zero_add]
    simp only [LayoutItem.read] at h
    split at h
    · obtain ⟨-, h⟩ := Option.ite_none_left_eq_some.1 h
      cases h
      rw [Mark.count_cons_of_not_mem (by cases mark <;> decide)]
      exact (Mark.count_dropWhile mark.not_isDigit _).symm
    · cases h
      rfl
  | offset => exact count_of_readOffset h

end LayoutItem

namespace Layout

variable {mark : Mark} {a b layout : Layout} {cs : List Char} {m m' : Moment}

/-! ## Layouts that differ in their marks -/

/-- How many marks of a kind there are in a text of the layout. -/
def marks (mark : Mark) (layout : Layout) : Nat :=
  layout.foldr (fun item n => item.marks mark + n) 0

/-- All texts of the layout have as many marks of the kind. -/
def isSteady (mark : Mark) (layout : Layout) : Bool :=
  List.all layout (LayoutItem.isSteady mark)

/-- What a layout reads has as many characters of a steady mark as the layout itself. -/
theorem count_of_readFrom (hsteady : layout.isSteady mark)
    (h : readFrom m cs layout = some m') : mark.count cs = layout.marks mark := by
  induction layout generalizing m cs with
  | nil =>
    obtain ⟨hend, -⟩ := Option.ite_none_right_eq_some.1 h
    rw [List.isEmpty_iff.1 hend]
    rfl
  | cons item layout ih =>
    obtain ⟨hitem, hlayout⟩ := Bool.and_eq_true_iff.1 hsteady
    unfold readFrom at h
    split at h
    · next m₁ rest hread =>
      rw [LayoutItem.count_of_read hitem hread, ih hlayout h]
      rfl
    · cases h

/-- A text that is read by a layout has as many characters of a steady mark as the layout. -/
theorem count_of_read? {text : String} (hsteady : layout.isSteady mark)
    (h : layout.read? text = some m) : mark.count text.toList = layout.marks mark :=
  count_of_readFrom hsteady (Option.filter_eq_some_iff.1 h).1

/-- The texts of two layouts differ in how many marks of a kind they have. -/
def differ (a b : Layout) : Bool :=
  Mark.all.any fun mark => a.isSteady mark && b.isSteady mark && a.marks mark != b.marks mark

/-- Layouts that differ share no text. -/
theorem not_read?_of_differ {text : String} (hdiffer : differ a b)
    (ha : a.read? text = some m) (hb : b.read? text = some m') : False := by
  obtain ⟨mark, -, hmark⟩ := List.any_eq_true.1 hdiffer
  simp only [Bool.and_eq_true, bne_iff_ne] at hmark
  obtain ⟨⟨hsteady, hsteady'⟩, hmarks⟩ := hmark
  exact hmarks ((count_of_read? hsteady ha).symm.trans (count_of_read? hsteady' hb))

/-! ## Layouts with and without a fraction -/

/-- What is a text without a fraction is the same with a fraction that is left out. -/
theorem readFrom_append_fraction (h : readFrom m cs layout = some m') :
    readFrom m cs (layout ++ [LayoutItem.fraction]) = some m' := by
  induction layout generalizing m cs with
  | nil =>
    obtain ⟨hend, h⟩ := Option.ite_none_right_eq_some.1 h
    cases List.isEmpty_iff.1 hend
    exact h
  | cons item layout ih =>
    unfold readFrom at h
    split at h
    · next m₁ rest hread =>
      rw [List.cons_append]
      unfold readFrom
      rw [hread]
      exact ih h
    · cases h

/-- A layout with a fraction at its end reads what it reads without it, with the same result. -/
theorem read?_append_fraction {text : String} (h : layout.read? text = some m) :
    read? (layout ++ [LayoutItem.fraction]) text = some m := by
  obtain ⟨hread, hvalid⟩ := Option.filter_eq_some_iff.1 h
  exact Option.filter_eq_some_iff.2 ⟨readFrom_append_fraction hread, hvalid⟩

/-! ## One moment a text -/

/-- Two of the layouts are the same, differ by a fraction at the end, or have different marks. -/
theorem same_or_fraction_or_differ : ∀ a ∈ all, ∀ b ∈ all,
    a = b ∨ a ++ [LayoutItem.fraction] = b ∨ b ++ [LayoutItem.fraction] = a ∨ differ a b := by
  decide

/-- Two of the layouts that take a text read it as one moment. -/
theorem moment_eq {text : String} (ha : a ∈ all) (hb : b ∈ all) (h : a.read? text = some m)
    (h' : b.read? text = some m') : m = m' := by
  rcases same_or_fraction_or_differ a ha b hb with rfl | rfl | rfl | hdiffer
  · exact Option.some.inj (h.symm.trans h')
  · exact Option.some.inj ((read?_append_fraction h).symm.trans h')
  · exact Option.some.inj (h.symm.trans (read?_append_fraction h'))
  · exact (not_read?_of_differ hdiffer h h').elim

/-- No text has two instants: two of the layouts that both take it whole give the same milliseconds,
and so the layouts may be tried in any order. -/
theorem one_instant (text : String) :
    (∀ a ∈ all, ∀ b ∈ all, ∀ m m', a.read? text = some m → b.read? text = some m' →
      m.toMillis = m'.toMillis) ∧
    (∀ layouts : List Layout, layouts.Perm all →
      (layouts.findSome? (·.read? text)).map Moment.toMillis = millisOfText? text) := by
  refine ⟨fun a ha b hb m m' h h' => congrArg Moment.toMillis (moment_eq ha hb h h'), ?_⟩
  intro layouts hperm
  unfold millisOfText?
  congr 1
  cases hfirst : layouts.findSome? (·.read? text) with
  | none =>
    have hnone := List.findSome?_eq_none_iff.1 hfirst
    exact (List.findSome?_eq_none_iff.2 fun layout hlayout =>
      hnone layout (hperm.mem_iff.2 hlayout)).symm
  | some m =>
    obtain ⟨a, ha, hread⟩ := List.exists_of_findSome?_eq_some hfirst
    cases hother : all.findSome? (·.read? text) with
    | none =>
      have hnone := List.findSome?_eq_none_iff.1 hother a (hperm.mem_iff.1 ha)
      rw [hnone] at hread
      cases hread
    | some m' =>
      obtain ⟨b, hb, hread'⟩ := List.exists_of_findSome?_eq_some hother
      rw [moment_eq (hperm.mem_iff.1 ha) hb hread hread']

end Layout

end Chartboard
