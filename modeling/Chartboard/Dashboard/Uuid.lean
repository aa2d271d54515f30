/-!
# Unique identifiers

An identifier has 128 bits. It is written as 32 hexadecimal digits in lower case, in groups of
eight, four, four, four and twelve. It is read in that form, without hyphens, in braces or behind
`urn:uuid:`, with letters of either case.
-/

namespace Chartboard

/-- A unique identifier. -/
structure Uuid where
  /-- The bits of the identifier. -/
  bits : BitVec 128
  deriving DecidableEq, Repr, Inhabited

namespace Uuid

/-- The identifier with a given number. -/
def ofNat (n : Nat) : Uuid := ⟨BitVec.ofNat 128 n⟩

/-- The identifier of which all bits are zero. -/
def nil : Uuid := ofNat 0

/-- The value of a hexadecimal digit of either case. -/
def hexValue? (c : Char) : Option Nat :=
  if c.isDigit then some (c.toNat - '0'.toNat)
  else if 'a' ≤ c ∧ c ≤ 'f' then some (c.toNat - 'a'.toNat + 10)
  else if 'A' ≤ c ∧ c ≤ 'F' then some (c.toNat - 'A'.toNat + 10)
  else none

/-- The value of a run of hexadecimal digits. -/
def hexNumber? (cs : List Char) : Option Nat :=
  cs.foldlM (fun n c => (hexValue? c).map fun d => n * 16 + d) 0

/-- The last `width` hexadecimal digits of a number. -/
def hexDigits : Nat → Nat → List Char
  | 0, _ => []
  | width + 1, n => hexDigits width (n / 16) ++ (Nat.toDigits 16 (n % 16))

/-- Puts hyphens between the groups of the 32 digits. -/
def hyphenate (digits : List Char) : List Char :=
  digits.take 8 ++ '-' :: (digits.drop 8).take 4 ++ '-' :: (digits.drop 12).take 4
    ++ '-' :: (digits.drop 16).take 4 ++ '-' :: digits.drop 20

/-- The written form. -/
def text (u : Uuid) : String :=
  String.ofList (hyphenate (hexDigits 32 u.bits.toNat))

/-- The 32 digits of a hyphenated form. -/
def unhyphenate? (cs : List Char) : Option (List Char) :=
  let at? (i : Nat) : Bool := cs[i]? == some '-'
  if cs.length = 36 ∧ at? 8 ∧ at? 13 ∧ at? 18 ∧ at? 23 then
    some (cs.take 8 ++ (cs.drop 9).take 4 ++ (cs.drop 14).take 4 ++ (cs.drop 19).take 4
      ++ cs.drop 24)
  else none

/-- The number of bytes of a text. -/
def byteCount (cs : List Char) : Nat :=
  (String.ofList cs).utf8ByteSize

/-- What stands in front of an identifier that is written as a name. -/
def nameSpace : List Char := "urn:uuid:".toList

/-- The text is written as a name, in letters of either case. -/
def isNamed (cs : List Char) : Bool :=
  (cs.take nameSpace.length).map Char.toLower = nameSpace

/-- The text stands between braces. -/
def isBraced (cs : List Char) : Bool :=
  2 ≤ cs.length && cs.head? = some '\x7b' && cs.getLast? = some '\x7d'

/-- The number of bytes of a hyphenated form. -/
def hyphenatedBytes : Nat := 36

/-- The number of bytes of the longest form, the one behind `urn:uuid:`. -/
def longestBytes : Nat := 45

/-- The text between braces or behind `urn:uuid:`, if it is as long as a hyphenated form. -/
def unwrap (cs : List Char) : List Char :=
  if byteCount cs = hyphenatedBytes + 2 ∧ isBraced cs then cs.tail.dropLast
  else if byteCount cs = longestBytes ∧ isNamed cs then cs.drop nameSpace.length
  else cs

/-- The identifier of a text in one of the forms that can be read. -/
def ofText? (text : String) : Option Uuid := do
  let cs := unwrap text.toList
  let digits ← if cs.length = 32 then some cs else unhyphenate? cs
  let number ← hexNumber? digits
  pure (ofNat number)

/-! ## Texts that are no identifiers -/

/-- Why a text is no identifier. -/
inductive Fault where
  /-- A character is neither a digit nor a hyphen; its place counts bytes from zero. -/
  | character (c : Char) (place : Nat)
  /-- A text is longer than every form, or has no hyphens and another length than 32. -/
  | length (found : Nat)
  /-- There are other than five groups. -/
  | groupCount (found : Nat)
  /-- A group has a wrong length. -/
  | groupLength (group : Nat) (expected found : Nat)
  deriving DecidableEq, Repr

/-- The message for the user. -/
def Fault.message : Fault → String
  | character c place => s!"invalid character: found `{c}` at {place}"
  | length found => s!"invalid length: found {found}"
  | groupCount found => s!"invalid group count: expected 5, found {found}"
  | groupLength group expected found =>
    s!"invalid group length in group {group}: expected {expected}, found {found}"

/-- The first character that is neither a digit nor a hyphen, with the number of bytes before
it. -/
def badCharacter? (before : Nat) : List Char → Option (Char × Nat)
  | [] => none
  | c :: rest =>
    if c = '-' ∨ (hexValue? c).isSome then badCharacter? (before + c.utf8Size) rest
    else some (c, before)

/-- The groups of a hyphenated form: their numbers, starts and lengths. -/
def groups : List (Nat × Nat × Nat) :=
  [(0, 0, 8), (1, 9, 4), (2, 14, 4), (3, 19, 4)]

/-- The first group that does not end where it should, by the places of the hyphens; the last
group is at fault if all others are right. -/
def badGroup (total : Nat) (hyphens : List Nat) : Fault :=
  match (groups.zip hyphens).find? fun ((_, start, width), hyphen) => hyphen ≠ start + width with
  | some ((group, start, width), hyphen) => .groupLength group width (hyphen - start)
  | none => .groupLength 4 12 (total - 24)

/-- The text is as long as a hyphenated form. -/
def isHyphenatedLong (cs : List Char) : Bool :=
  byteCount cs = hyphenatedBytes

/-- The part of a text in which faults are looked for, and the number of bytes in front of it. A
text that is as long as a hyphenated form is taken as one, whatever it begins with. -/
def body (cs : List Char) : List Char × Nat :=
  if isHyphenatedLong cs then (cs, 0)
  else if isBraced cs then (cs.tail.dropLast, 1)
  else if isNamed cs then (cs.drop nameSpace.length, nameSpace.length)
  else (cs, 0)

/-- Why a text that is no identifier is none. If it is not too long for every form, characters are
looked at before lengths. A length is at fault only where no hyphens are to be expected. -/
def fault (text : String) : Fault :=
  let cs := unwrap text.toList
  let (inner, offset) := body cs
  let hyphens := (inner.zipIdx.filter fun e => e.1 = '-').map (·.2)
  if longestBytes < byteCount cs then .length (byteCount cs)
  else match badCharacter? 0 inner with
    | some (c, before) => .character c (before + offset)
    | none =>
      if hyphens.isEmpty ∧ offset = 0 ∧ !isHyphenatedLong cs then .length (byteCount cs)
      else if hyphens.length ≠ 4 then .groupCount (hyphens.length + 1)
      else badGroup (byteCount cs) hyphens

/-- The identifier of a text, or why it is none. -/
def ofText (text : String) : Except Fault Uuid :=
  match ofText? text with
  | some u => .ok u
  | none => .error (fault text)

end Uuid

end Chartboard
