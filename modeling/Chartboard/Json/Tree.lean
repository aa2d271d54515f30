import Chartboard.Json.Literal

/-!
# Read texts

Reading a text leaves a tree that says what stands where, up to the place where the text stops
being JSON. A decoder walks the tree in the order of the text, so it meets a value of the wrong
kind before a fault that comes later in the text, and after one that comes earlier.
-/

namespace Chartboard.Json

/-- Why a text stops being JSON. -/
inductive Fault where
  /-- The text ends inside an array. -/
  | openArray
  /-- The text ends inside an object. -/
  | openObject
  /-- The text ends inside a quoted text. -/
  | openString
  /-- The text ends in front of a value or inside a bare one. -/
  | openValue
  /-- A key is not followed by a colon. -/
  | noColon
  /-- An item is followed neither by a comma nor by the end of its array. -/
  | noItemEnd
  /-- A member is followed neither by a comma nor by the end of its object. -/
  | noMemberEnd
  /-- A bare word is not the one that its first letter announces. -/
  | badWord
  /-- No value starts here. -/
  | noValue
  /-- An escape is none that there is. -/
  | badEscape
  /-- A number lacks a digit or has a zero too many. -/
  | badNumber
  /-- A number is beyond the doubles. -/
  | hugeNumber
  /-- A quoted text holds a control character. -/
  | controlCharacter
  /-- A key is not a quoted text. -/
  | badKey
  /-- A surrogate is not what its neighbour calls for. -/
  | loneSurrogate
  /-- The first half of a surrogate pair is not followed by an escape. -/
  | openSurrogate
  /-- Nothing stands between a comma and the end of a container. -/
  | trailingComma
  /-- Something follows what was to be read. -/
  | trailingText
  /-- Containers are nested too deep. -/
  | tooDeep
  deriving DecidableEq, Repr

namespace Fault

/-- The text ends too early. -/
def isTruncated : Fault → Bool
  | openArray | openObject | openString | openValue => true
  | _ => false

/-- The message for the user. -/
def message : Fault → String
  | openArray => "EOF while parsing a list"
  | openObject => "EOF while parsing an object"
  | openString => "EOF while parsing a string"
  | openValue => "EOF while parsing a value"
  | noColon => "expected `:`"
  | noItemEnd => "expected `,` or `]`"
  | noMemberEnd => "expected `,` or `\x7d`"
  | badWord => "expected ident"
  | noValue => "expected value"
  | badEscape => "invalid escape"
  | badNumber => "invalid number"
  | hugeNumber => "number out of range"
  | controlCharacter =>
    "control character (\\u0000-\\u001F) found while parsing a string"
  | badKey => "key must be a string"
  | loneSurrogate => "lone leading surrogate in hex escape"
  | openSurrogate => "unexpected end of hex escape"
  | trailingComma => "trailing comma"
  | trailingText => "trailing characters"
  | tooDeep => "recursion limit exceeded"

end Fault

/-- A place at which a text breaks off. A value that is only skipped is read less carefully, so it
may be refused for another reason. -/
structure Breach where
  /-- The fault met by a reader of the value. -/
  read : Fault
  /-- The fault met by one who skips the value. -/
  skip : Fault
  /-- The break is inside a bare word or a number. -/
  bare : Bool
  deriving DecidableEq, Repr

namespace Breach

/-- A break that is the same for every reader. -/
def plain (fault : Fault) : Breach := ⟨fault, fault, false⟩

end Breach

/-- The key of a member, or why its text is none. -/
abbrev Key := Except Fault String

/-- What a text holds, as far as it is JSON. -/
inductive Tree where
  /-- The null literal. -/
  | null
  /-- A boolean. -/
  | bool (b : Bool)
  /-- A number. -/
  | number (n : Number)
  /-- A text. -/
  | string (s : String)
  /-- The items of an array, and the break that follows the last one in place of its end. -/
  | array (items : List Tree) (stop : Option Breach)
  /-- The members of an object in the order of the text, and the break that follows the last one
  in place of its end. -/
  | object (members : List (Key × Tree)) (stop : Option Breach)
  /-- The text breaks off here. -/
  | broken (breach : Breach)
  /-- A text or number of the right form that denotes nothing, since a surrogate is unpaired or the
  number is beyond the doubles: a fault for a reader and no obstacle for one who skips it. -/
  | unreadable (fault : Fault)
  deriving Inhabited

/-! ## Lexemes -/

/-- The four blanks between the tokens of JSON. -/
def isBlank (c : Char) : Bool :=
  c = ' ' || c = '\n' || c = '\t' || c = '\r'

/-- The text from the first token on. -/
def skipBlanks (cs : List Char) : List Char :=
  cs.dropWhile isBlank

/-- The values of the leading digits, and the text behind them. -/
def takeDigits (cs : List Char) : List Nat × List Char :=
  ((cs.takeWhile Char.isDigit).map fun c => c.toNat - '0'.toNat, cs.dropWhile Char.isDigit)

/-- The rest of a text that starts with a given word. -/
def expectWord : List Char → List Char → Except Fault (List Char)
  | [], cs => .ok cs
  | _ :: _, [] => .error .openValue
  | w :: word, c :: cs => if w = c then expectWord word cs else .error .badWord

/-- A break inside a number. Whoever skips a number misses a digit as he misses any other
character. -/
def numberBreach (rest : List Char) : Breach :=
  ⟨if rest.isEmpty then .openValue else .badNumber, .badNumber, true⟩

/-- An exponent, if one starts here, behind the digits read so far. -/
def lexExponent (l : Literal) : List Char → Except Breach (Literal × List Char)
  | c :: rest =>
    if c = 'e' ∨ c = 'E' then
      let (negative, rest) := match rest with
        | '+' :: r => (false, r)
        | '-' :: r => (true, r)
        | r => (false, r)
      let (digits, rest) := takeDigits rest
      if digits.isEmpty then .error (numberBreach rest)
      else
        let size : Nat := digits.foldl (fun n d => n * 10 + d) 0
        .ok ({ l with exponent := some (if negative then -(size : Int) else size) }, rest)
    else .ok (l, c :: rest)
  | [] => .ok (l, [])

/-- A fraction, if one starts here, and an exponent. -/
def lexFraction (l : Literal) : List Char → Except Breach (Literal × List Char)
  | '.' :: rest =>
    let (digits, rest) := takeDigits rest
    if digits.isEmpty then .error (numberBreach rest)
    else lexExponent { l with fraction := some digits } rest
  | cs => lexExponent l cs

/-- A number behind its sign. A leading zero stands alone. -/
def lexNumber (negative : Bool) (cs : List Char) : Except Breach (Literal × List Char) :=
  let (digits, rest) := takeDigits cs
  match digits with
  | [] => .error (numberBreach rest)
  | [d] => lexFraction ⟨negative, [d], none, none⟩ rest
  | 0 :: _ => .error ⟨.badNumber, .badNumber, true⟩
  | ds => lexFraction ⟨negative, ds, none, none⟩ rest

/-- A piece of a quoted text. -/
inductive Piece where
  /-- A character, plain or by its short escape. -/
  | char (c : Char)
  /-- A unit of sixteen bits by its escape. -/
  | unit (n : Nat)
  deriving DecidableEq, Repr

/-- The value of a hexadecimal digit. -/
def hexValue? (c : Char) : Option Nat :=
  if c.isDigit then some (c.toNat - '0'.toNat)
  else if 'a' ≤ c ∧ c ≤ 'f' then some (c.toNat - 'a'.toNat + 10)
  else if 'A' ≤ c ∧ c ≤ 'F' then some (c.toNat - 'A'.toNat + 10)
  else none

/-- The character of a short escape. -/
def shortEscape? : Char → Option Char
  | '"' => some '"'
  | '\\' => some '\\'
  | '/' => some '/'
  | 'b' => some '\x08'
  | 'f' => some '\x0c'
  | 'n' => some '\n'
  | 'r' => some '\r'
  | 't' => some '\t'
  | _ => none

/-- Fewer than four bytes are left, so an escape of four digits cannot be complete. -/
def endsInEscape (cs : List Char) : Bool :=
  (String.ofList (cs.take 4)).utf8ByteSize < 4

/-- Where a quoted text breaks off. -/
structure StringBreach where
  /-- The fault. -/
  fault : Fault
  /-- The fault is inside the escape of a unit. -/
  inUnit : Bool
  deriving DecidableEq, Repr

/-- The pieces of a quoted text behind its opening quote, and the text behind the closing one or
the break in place of it. -/
def lexPieces : List Char → List Piece × Except StringBreach (List Char)
  | [] => ([], .error ⟨.openString, false⟩)
  | '"' :: rest => ([], .ok rest)
  | ['\\'] => ([], .error ⟨.openString, false⟩)
  | '\\' :: 'u' :: a :: b :: c :: d :: rest =>
    match hexValue? a, hexValue? b, hexValue? c, hexValue? d with
    | some a, some b, some c, some d =>
      let (pieces, ending) := lexPieces rest
      (.unit (((a * 16 + b) * 16 + c) * 16 + d) :: pieces, ending)
    | _, _, _, _ => ([], .error ⟨.badEscape, true⟩)
  | '\\' :: 'u' :: rest =>
    ([], .error ⟨if endsInEscape rest then .openString else .badEscape, true⟩)
  | '\\' :: c :: rest =>
    match shortEscape? c with
    | some e =>
      let (pieces, ending) := lexPieces rest
      (.char e :: pieces, ending)
    | none => ([], .error ⟨.badEscape, false⟩)
  | c :: rest =>
    if c.toNat < 0x20 then ([], .error ⟨.controlCharacter, false⟩)
    else
      let (pieces, ending) := lexPieces rest
      (.char c :: pieces, ending)

/-- What the pieces of a quoted text denote. -/
inductive Denotation where
  /-- A string. -/
  | chars (cs : List Char)
  /-- The pieces end behind the first half of a surrogate pair. -/
  | halfPair
  /-- A surrogate is unpaired. -/
  | nothing (fault : Fault)
  deriving DecidableEq, Repr

/-- Puts a character in front of what the later pieces denote. -/
def Denotation.cons (c : Char) : Denotation → Denotation
  | chars cs => chars (c :: cs)
  | d => d

/-- A leading surrogate and a trailing one denote one character together. -/
def denote : List Piece → Denotation
  | [] => .chars []
  | .char c :: rest => (denote rest).cons c
  | .unit n :: rest =>
    if n < 0xD800 ∨ 0xE000 ≤ n then (denote rest).cons (Char.ofNat n)
    else if 0xDC00 ≤ n then .nothing .loneSurrogate
    else match rest with
      | [] => .halfPair
      | .unit m :: rest =>
        if 0xDC00 ≤ m ∧ m < 0xE000 then
          (denote rest).cons (Char.ofNat (0x10000 + (n - 0xD800) * 0x400 + (m - 0xDC00)))
        else .nothing .loneSurrogate
      | .char _ :: _ => .nothing .openSurrogate

/-- The fault of a text that breaks off behind the first half of a surrogate pair. -/
def StringBreach.afterHalf (b : StringBreach) : Fault :=
  if b.fault = .openString ∨ b.inUnit then b.fault else .openSurrogate

/-- A quoted text behind its opening quote: the string, or why it denotes none, and the rest. -/
def lexString (cs : List Char) : Except Breach (Key × List Char) :=
  let (pieces, ending) := lexPieces cs
  match denote pieces, ending with
  | .chars s, .ok rest => .ok (.ok (String.ofList s), rest)
  | .halfPair, .ok rest => .ok (.error .openSurrogate, rest)
  | .nothing fault, .ok rest => .ok (.error fault, rest)
  | .chars _, .error b => .error (.plain b.fault)
  | .halfPair, .error b => .error ⟨b.afterHalf, b.fault, false⟩
  | .nothing fault, .error b => .error ⟨fault, b.fault, false⟩

/-! ## Trees -/

namespace Tree

/-- A tree and the text behind it; no text is left where it broke off. -/
abbrev Scan := Tree × Option (List Char)

/-- A bare word that stands for a value. -/
def scanWord (word : String) (value : Tree) (cs : List Char) : Scan :=
  match expectWord word.toList cs with
  | .ok rest => (value, some rest)
  | .error fault => (broken ⟨fault, fault, true⟩, none)

/-- A number behind its sign. -/
def scanNumber (negative : Bool) (cs : List Char) : Scan :=
  match lexNumber negative cs with
  | .error breach => (broken breach, none)
  | .ok (l, rest) =>
    match l.toNumber? with
    | some n => (number n, some rest)
    | none => (unreadable .hugeNumber, some rest)

/-- A text behind its opening quote. -/
def scanString (cs : List Char) : Scan :=
  match lexString cs with
  | .error breach => (broken breach, none)
  | .ok (.ok s, rest) => (string s, some rest)
  | .ok (.error fault, rest) => (unreadable fault, some rest)

/-- The items of an array, the break in place of its end, and the text behind it. -/
abbrev ItemScan := List Tree × Option Breach × Option (List Char)

/-- The members of an object, the break in place of its end, and the text behind it. -/
abbrev MemberScan := List (Key × Tree) × Option Breach × Option (List Char)

mutual

/-- The value that starts a text. Every step of the recursion takes at least one character, so the
length of the text, three times over, is fuel enough. -/
def scan : Nat → List Char → Scan
  | 0, _ => (broken (.plain .noValue), none)
  | fuel + 1, cs =>
    match skipBlanks cs with
    | [] => (broken (.plain .openValue), none)
    | 'n' :: rest => scanWord "ull" null rest
    | 't' :: rest => scanWord "rue" (bool true) rest
    | 'f' :: rest => scanWord "alse" (bool false) rest
    | '"' :: rest => scanString rest
    | '-' :: rest => scanNumber true rest
    | '[' :: rest =>
      let (items, stop, rest) := scanItems fuel true rest
      (array items stop, rest)
    | '\x7b' :: rest =>
      let (members, stop, rest) := scanMembers fuel true rest
      (object members stop, rest)
    | c :: rest =>
      if c.isDigit then scanNumber false (c :: rest)
      else (broken ⟨.noValue, .noValue, true⟩, none)

/-- The items of an array up to its end; `first` before the first one. -/
def scanItems : Nat → Bool → List Char → ItemScan
  | 0, _, _ => ([], some (.plain .noItemEnd), none)
  | fuel + 1, first, cs =>
    match skipBlanks cs with
    | [] => ([], some (.plain .openArray), none)
    | ']' :: rest => ([], none, some rest)
    | c :: rest =>
      if first then scanItem fuel (c :: rest)
      else if c = ',' then
        match skipBlanks rest with
        | [] => ([], some (.plain .openValue), none)
        | ']' :: _ => ([], some ⟨.trailingComma, .noValue, false⟩, none)
        | rest => scanItem fuel rest
      else ([], some (.plain .noItemEnd), none)

/-- One item and those behind it. -/
def scanItem : Nat → List Char → ItemScan
  | 0, _ => ([], some (.plain .noItemEnd), none)
  | fuel + 1, cs =>
    match scan fuel cs with
    | (item, none) => ([item], none, none)
    | (item, some rest) =>
      let (items, stop, rest) := scanItems fuel false rest
      (item :: items, stop, rest)

/-- The members of an object up to its end; `first` before the first one. -/
def scanMembers : Nat → Bool → List Char → MemberScan
  | 0, _, _ => ([], some (.plain .noMemberEnd), none)
  | fuel + 1, first, cs =>
    match skipBlanks cs with
    | [] => ([], some (.plain .openObject), none)
    | '\x7d' :: rest => ([], none, some rest)
    | c :: rest =>
      if first then
        if c = '"' then scanMember fuel rest
        else ([], some (.plain .badKey), none)
      else if c = ',' then
        match skipBlanks rest with
        | [] => ([], some ⟨.openValue, .openObject, false⟩, none)
        | '"' :: rest => scanMember fuel rest
        | '\x7d' :: _ => ([], some ⟨.trailingComma, .badKey, false⟩, none)
        | _ => ([], some (.plain .badKey), none)
      else ([], some (.plain .noMemberEnd), none)

/-- One member, from behind the opening quote of its key, and those behind it. -/
def scanMember : Nat → List Char → MemberScan
  | 0, _ => ([], some (.plain .noMemberEnd), none)
  | fuel + 1, cs =>
    match lexString cs with
    | .error breach => ([], some breach, none)
    | .ok (key, rest) =>
      match skipBlanks rest with
      | [] => ([(key, broken (.plain .openObject))], none, none)
      | ':' :: rest =>
        match scan fuel rest with
        | (value, none) => ([(key, value)], none, none)
        | (value, some rest) =>
          let (members, stop, rest) := scanMembers fuel false rest
          ((key, value) :: members, stop, rest)
      | _ => ([(key, broken (.plain .noColon))], none, none)

end

/-- The tree of a whole text, and whether only blanks stand behind it. -/
def ofText (text : String) : Tree × Bool :=
  let cs := text.toList
  match scan (3 * cs.length + 3) cs with
  | (tree, none) => (tree, true)
  | (tree, some rest) => (tree, (skipBlanks rest).isEmpty)

mutual

/-- A finished value as a tree. -/
def ofValue : Value → Tree
  | .null => null
  | .bool b => bool b
  | .number n => number n
  | .string s => string s
  | .array items => array (ofItems items) none
  | .object members => object (ofMembers members) none

/-- Finished items as trees. -/
def ofItems : List Value → List Tree
  | [] => []
  | v :: rest => ofValue v :: ofItems rest

/-- Finished members as trees. -/
def ofMembers : List (String × Value) → List (Key × Tree)
  | [] => []
  | (k, v) :: rest => (.ok k, ofValue v) :: ofMembers rest

end

mutual

/-- The fault met by one who skips a value. -/
def skipFault : Tree → Option Fault
  | null | bool _ | number _ | string _ | unreadable _ => none
  | broken breach => some breach.skip
  | array items stop => (skipItems items).or (stop.map (·.skip))
  | object members stop => (skipMembers members).or (stop.map (·.skip))

/-- The first fault met by one who skips items. -/
def skipItems : List Tree → Option Fault
  | [] => none
  | t :: rest => (skipFault t).or (skipItems rest)

/-- The first fault met by one who skips members. -/
def skipMembers : List (Key × Tree) → Option Fault
  | [] => none
  | (_, t) :: rest => (skipFault t).or (skipMembers rest)

end

/-- What follows the last item or member, for a reader. -/
def ending : Option Breach → Except Fault Unit
  | none => .ok ()
  | some breach => .error breach.read

mutual

/-- The finished value of a tree. Containers may nest `room` deep, or without limit for `none`.
Keys are sorted, and the last value of a repeated key stands. -/
def toValue (room : Option Nat) : Tree → Except Fault Value
  | null => .ok .null
  | bool b => .ok (.bool b)
  | number n => .ok (.number n)
  | string s => .ok (.string s)
  | unreadable fault => .error fault
  | broken breach => .error breach.read
  | array items stop => do
    if room = some 0 then throw .tooDeep
    let values ← toItems (room.map (· - 1)) items
    ending stop
    pure (.array values)
  | object members stop => do
    if room = some 0 then throw .tooDeep
    let values ← toMembers (room.map (· - 1)) members
    ending stop
    pure (Value.ofMembers values)

/-- The finished values of items. -/
def toItems (room : Option Nat) : List Tree → Except Fault (List Value)
  | [] => .ok []
  | t :: rest => do
    let v ← toValue room t
    let vs ← toItems room rest
    pure (v :: vs)

/-- The finished members of an object, in the order of the text. -/
def toMembers (room : Option Nat) :
    List (Key × Tree) → Except Fault (List (String × Value))
  | [] => .ok []
  | (.error fault, _) :: _ => .error fault
  | (.ok k, t) :: rest => do
    let v ← toValue room t
    let vs ← toMembers room rest
    pure ((k, v) :: vs)

end

end Tree

end Chartboard.Json
