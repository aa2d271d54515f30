import Chartboard.Json.Printer
import Chartboard.Json.Tree
import Chartboard.Text.Shown

/-!
# Decoding

A decoder turns a tree into a value of a domain type or says why it cannot. A fault of the text
and a value of the wrong kind are different causes; `DataError.message` words the second.

Records are described by their fields. A record is read from an object, whose fields may come in
any order and whose unknown fields are skipped, or from an array that holds the fields in the
order of their declaration.
-/

namespace Chartboard.Json

/-- Where a value comes from. The grammar of a text refuses some forms that would otherwise be
reported as data of the wrong kind. -/
inductive Medium where
  /-- The value is being read from a text. -/
  | text
  /-- The value is already finished. -/
  | value
  deriving DecidableEq, Repr

/-- What was found in place of something else. -/
inductive Found where
  /-- The null literal. -/
  | null
  /-- A boolean. -/
  | bool (b : Bool)
  /-- A number. -/
  | number (n : Number)
  /-- A text. -/
  | string (s : String)
  /-- An array. -/
  | sequence
  /-- An object. -/
  | map
  deriving DecidableEq, Repr

/-- What a decoder wants. -/
inductive Wanted where
  /-- A text. -/
  | string
  /-- A boolean. -/
  | boolean
  /-- A natural number of so many bits. -/
  | natural (bits : Nat)
  /-- A natural number that counts things in memory. -/
  | count
  /-- An array. -/
  | sequence
  /-- An object. -/
  | map
  /-- The name of an alternative, or an object that names it. -/
  | alternative
  /-- The empty content of an alternative. -/
  | unit
  /-- A record. -/
  | record (name : String)
  /-- A unique identifier. -/
  | uuid
  deriving DecidableEq, Repr

/-- Why well-formed JSON is not the value that is wanted. -/
inductive DataError where
  /-- A record lacks a field. -/
  | missingField (name : String)
  /-- A record has a field twice. -/
  | duplicateField (name : String)
  /-- An alternative has another name than those there are. -/
  | unknownVariant (name : String) (names : List String)
  /-- A value is of another kind. -/
  | invalidType (found : Found) (wanted : Wanted)
  /-- An integer is out of range. -/
  | invalidInteger (i : Int) (wanted : Wanted)
  /-- An object that names an alternative has other than one key. -/
  | notSingleKey
  /-- An array ends in front of the field of a record that has this index. -/
  | invalidLength (index : Nat) (record : String) (fields : Nat)
  /-- An array has too many items for a record. -/
  | extraItems (length : Nat)
  /-- A text does not have the form that it has to have, for a reason of its own. -/
  | invalidForm (reason : String)
  deriving DecidableEq, Repr

/-- Why a tree does not decode. -/
inductive DecodeError where
  /-- The text is not JSON. -/
  | fault (fault : Fault)
  /-- The text is JSON and holds the wrong data. -/
  | data (error : DataError)
  deriving DecidableEq, Repr

/-- The words for what was found. -/
def Found.describe : Found → String
  | null => "null"
  | bool b => s!"boolean `{b}`"
  | number (.int i) => s!"integer `{i}`"
  | number (.float x) => s!"floating point `{(Number.float x).text}`"
  | string s => s!"string {Text.shown s}"
  | sequence => "sequence"
  | map => "map"

/-- The words for what is wanted. -/
def Wanted.describe : Wanted → String
  | string => "a string"
  | boolean => "a boolean"
  | natural bits => s!"u{bits}"
  | count => "usize"
  | sequence => "a sequence"
  | map => "a map"
  | alternative => "string or map"
  | unit => "unit"
  | record name => s!"struct {name}"
  | uuid => "a formatted UUID string"

/-- The names of the alternatives there are, in words. -/
def expectedNames : List String → String
  | [] => "there are no variants"
  | [a] => s!"expected `{a}`"
  | [a, b] => s!"expected `{a}` or `{b}`"
  | names => "expected one of " ++ ", ".intercalate (names.map fun n => s!"`{n}`")

/-- The message for wrong data. -/
def DataError.message : DataError → String
  | missingField name => s!"missing field `{name}`"
  | duplicateField name => s!"duplicate field `{name}`"
  | unknownVariant name names => s!"unknown variant `{name}`, {expectedNames names}"
  | invalidType found wanted => s!"invalid type: {found.describe}, expected {wanted.describe}"
  | invalidInteger i wanted => s!"invalid value: integer `{i}`, expected {wanted.describe}"
  | notSingleKey => "invalid value: map, expected map with a single key"
  | invalidLength index record fields =>
    let noun := if fields = 1 then "element" else "elements"
    s!"invalid length {index}, expected struct {record} with {fields} {noun}"
  | extraItems length => s!"invalid length {length}, expected fewer elements in array"
  | invalidForm reason => reason

/-- The message for a tree that does not decode. -/
def DecodeError.message : DecodeError → String
  | fault f => f.message
  | data e => e.message

/-- A decoder of one type. -/
abbrev Decoder (α : Type) := Medium → Tree → Except DecodeError α

namespace Decoder

/-- The tree is of another kind than the one that is wanted. -/
def mismatch {α : Type} (wanted : Wanted) : Tree → Except DecodeError α
  | .null => .error (.data (.invalidType .null wanted))
  | .bool b => .error (.data (.invalidType (.bool b) wanted))
  | .number n => .error (.data (.invalidType (.number n) wanted))
  | .string s => .error (.data (.invalidType (.string s) wanted))
  | .array _ _ => .error (.data (.invalidType .sequence wanted))
  | .object _ _ => .error (.data (.invalidType .map wanted))
  | .broken breach => .error (.fault breach.read)
  | .unreadable fault => .error (.fault fault)

/-- Reads a text. -/
def string : Decoder String
  | _, .string s => .ok s
  | _, t => mismatch .string t

/-- Reads a boolean. -/
def bool : Decoder Bool
  | _, .bool b => .ok b
  | _, t => mismatch .boolean t

/-- Reads an integer from zero to below `bound`. -/
def below (bound : Nat) (wanted : Wanted) : Decoder Nat
  | _, .number (.int i) =>
    if 0 ≤ i ∧ i < bound then .ok i.toNat else .error (.data (.invalidInteger i wanted))
  | _, t => mismatch wanted t

/-- Reads a natural number of so many bits. -/
def natural (bits : Nat) : Decoder Nat :=
  below (Nat.pow 2 bits) (.natural bits)

/-- Reads a natural number that counts things. -/
def count : Decoder Nat :=
  below 0x10000000000000000 .count

/-- Reads null as the absent value. -/
def optional {α : Type} (decoder : Decoder α) : Decoder (Option α)
  | _, .null => .ok none
  | m, t => some <$> decoder m t

/-- What stands behind the items or members that were read. -/
def ending (stop : Option Breach) : Except DecodeError Unit :=
  (Tree.ending stop).mapError .fault

/-- Reads an array of values of one type. -/
def list {α : Type} (decoder : Decoder α) : Decoder (List α)
  | m, .array items stop => do
    let values ← items.mapM (decoder m)
    ending stop
    pure values
  | _, t => mismatch .sequence t

/-- Reads the members of an object in their order. -/
def entries {α : Type} (decoder : Decoder α) : Decoder (List (String × α))
  | m, .object members stop => do
    let values ← members.mapM fun
      | (.ok key, t) => do pure (key, ← decoder m t)
      | (.error fault, _) => throw (.fault fault)
    ending stop
    pure values
  | _, t => mismatch .map t

/-- The number of containers that a text may nest. -/
def maxDepth : Nat := 127

/-- Reads any value. In a text, `outside` containers are already open around it. -/
def anything (outside : Nat) : Decoder Value
  | m, t =>
    let room := match m with
      | .text => some (maxDepth - outside)
      | .value => none
    (t.toValue room).mapError .fault

/-- An alternative by its name. -/
def variant {α : Type} (names : List (String × α)) (name : String) : Except DecodeError α :=
  match names.lookup name with
  | some a => .ok a
  | none => .error (.data (.unknownVariant name (names.map Prod.fst)))

/-- The empty content of an alternative. -/
def unit : Tree → Except DecodeError Unit
  | .null => .ok ()
  | t => mismatch .unit t

/-- What stands behind the one member of an object that names an alternative. Anything but the end
of the object is in the way. -/
def soleEnding (rest : List (Key × Tree)) (stop : Option Breach) : Except DecodeError Unit :=
  match rest, stop with
  | [], none => .ok ()
  | [], some breach =>
    .error (.fault (if breach.read = .openObject then .openObject else .noValue))
  | _ :: _, _ => .error (.fault .noValue)

/-- Reads one of some named alternatives from a text: its name, or an object of one member whose
key is the name and whose value is null. Nothing else can start an alternative. -/
def alternativeInText {α : Type} (select : String → Except DecodeError α) :
    Tree → Except DecodeError α
  | .string s => select s
  | .object ((.ok key, t) :: rest) stop => do
    let a ← select key
    unit t
    soleEnding rest stop
    pure a
  | .object ((.error fault, _) :: _) _ => .error (.fault fault)
  | .object [] (some breach) => .error (.fault breach.read)
  | .broken breach => .error (.fault (if breach.bare then .noValue else breach.read))
  | .unreadable fault => .error (.fault (if fault = .hugeNumber then .noValue else fault))
  | _ => .error (.fault .noValue)

/-- Reads one of some named alternatives: its name, or an object of one member whose key is the
name and whose value is null. -/
def alternative {α : Type} (select : String → Except DecodeError α) : Decoder α
  | .text, t => alternativeInText select t
  | .value, .string s => select s
  | .value, .object [(.ok key, t)] _ => do
    let a ← select key
    unit t
    pure a
  | .value, .object _ _ => .error (.data .notSingleKey)
  | .value, t => mismatch .alternative t

end Decoder

/-- A field of a record of type `σ`. -/
structure Field (σ : Type) where
  /-- The key of the field. -/
  name : String
  /-- Reads the field and puts it into the record. -/
  read : Medium → Tree → σ → Except DecodeError σ
  /-- An object may lack the field. -/
  mayLack : Bool
  /-- An array may end in front of the field. -/
  mayEnd : Bool

namespace Field

/-- A field that must be there. -/
def required {σ α : Type} (name : String) (decoder : Decoder α) (set : α → σ → σ) : Field σ where
  name := name
  read m t r := do pure (set (← decoder m t) r)
  mayLack := false
  mayEnd := false

/-- A field that keeps its initial value where it is lacking. -/
def defaulted {σ α : Type} (name : String) (decoder : Decoder α) (set : α → σ → σ) :
    Field σ where
  name := name
  read m t r := do pure (set (← decoder m t) r)
  mayLack := true
  mayEnd := true

/-- A field whose absence is a value of its own. It may be lacking in an object, and in an array
too if it has a default. -/
def optional {σ α : Type} (name : String) (decoder : Decoder α) (set : Option α → σ → σ)
    (mayEnd : Bool) : Field σ where
  name := name
  read m t r := do pure (set (← decoder.optional m t) r)
  mayLack := true
  mayEnd := mayEnd

end Field

namespace Decoder

/-- Reads the members of an object into a record, in their order. `seen` are the names of the
fields read so far. -/
def members {σ : Type} (fields : List (Field σ)) (m : Medium) :
    List (Key × Tree) → List String → σ → Except DecodeError (List String × σ)
  | [], seen, r => .ok (seen, r)
  | (.error fault, _) :: _, _, _ => .error (.fault fault)
  | (.ok key, t) :: rest, seen, r =>
    match fields.find? (·.name == key) with
    | none =>
      match t.skipFault with
      | some fault => .error (.fault fault)
      | none => members fields m rest seen r
    | some field =>
      if seen.contains key then .error (.data (.duplicateField key))
      else do members fields m rest (key :: seen) (← field.read m t r)

/-- The first field that an object lacks and may not lack. -/
def firstMissing? {σ : Type} (fields : List (Field σ)) (seen : List String) : Option String :=
  (fields.find? fun f => !f.mayLack && !seen.contains f.name).map (·.name)

/-- What stands behind the last field of a record that is read from an array. Anything but the end
of the array is in the way. -/
def fullEnding (stop : Option Breach) : Except DecodeError Unit :=
  match stop with
  | none => .ok ()
  | some breach =>
    match breach.read with
    | .noItemEnd | .openValue => .error (.fault .trailingText)
    | fault => .error (.fault fault)

/-- Reads the items of an array into the fields of a record, in the order of declaration. -/
def positions {σ : Type} (record : String) (total : Nat) (m : Medium) (length : Nat)
    (stop : Option Breach) :
    List (Field σ) → List Tree → σ → Except DecodeError σ
  | [], [], r => do fullEnding stop; pure r
  | [], _ :: _, _ =>
    match m with
    | .text => .error (.fault .trailingText)
    | .value => .error (.data (.extraItems length))
  | field :: rest, [], r =>
    match stop with
    | some breach => .error (.fault breach.read)
    | none =>
      if field.mayEnd then positions record total m length stop rest [] r
      else .error (.data (.invalidLength (total - rest.length - 1) record total))
  | field :: rest, t :: items, r => do
    positions record total m length stop rest items (← field.read m t r)

/-- Reads a record from an object or from an array. -/
def record {σ : Type} (name : String) (fields : List (Field σ)) (initial : σ) : Decoder σ
  | m, .object entries stop => do
    let (seen, r) ← members fields m entries [] initial
    ending stop
    match firstMissing? fields seen with
    | some field => throw (.data (.missingField field))
    | none => pure r
  | m, .array items stop => positions name fields.length m items.length stop fields items initial
  | _, t => mismatch (.record name) t

/-- Decodes a whole text; nothing but blanks may follow the value. -/
def ofText {α : Type} (decoder : Decoder α) (text : String) : Except DecodeError α :=
  let (tree, complete) := Tree.ofText text
  match decoder .text tree with
  | .error e => .error e
  | .ok a => if complete then .ok a else .error (.fault .trailingText)

/-- Decodes a finished value. The members of its objects are visited in the order of their keys. -/
def ofValue {α : Type} (decoder : Decoder α) (v : Value) : Except DecodeError α :=
  decoder .value (Tree.ofValue v.canonical)

end Decoder

end Chartboard.Json
