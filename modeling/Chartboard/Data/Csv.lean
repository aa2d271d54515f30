import Chartboard.Text.Utf8

/-!
# Separated values

A file of separated values is a sequence of bytes. Records end with a line feed, a carriage return
or both, and empty lines are no records. A field that starts with a quote may hold anything; a
quote inside it is written twice. All records have as many fields as the first one, and every field
is UTF-8.
-/

namespace Chartboard.Csv

/-- Where a record starts. -/
structure Position where
  /-- The number of records in front of it. -/
  record : Nat
  /-- The number of its line; the first line is one. -/
  line : Nat
  /-- The number of bytes in front of it. -/
  byte : Nat
  deriving DecidableEq, Repr, Inhabited

/-- A record as it stands in the file. -/
structure RawRecord where
  /-- Where the reader was when it looked for the record, before any empty lines. -/
  position : Position
  /-- The bytes of its fields. -/
  fields : List (List UInt8)
  deriving DecidableEq, Repr, Inhabited

/-- Where a scanner stands. -/
inductive State where
  /-- Before a record. -/
  | recordStart
  /-- Before a field that is not the first one. -/
  | fieldStart
  /-- In a field, outside quotes. -/
  | plain
  /-- In a field, inside quotes. -/
  | quoted
  /-- Behind a quote inside quotes. -/
  | afterQuote
  /-- Behind a carriage return that ended a record. -/
  | afterReturn
  deriving DecidableEq, Repr, Inhabited

/-- A scanner with what it has read. -/
structure Scanner where
  /-- Where it stands. -/
  state : State := .recordStart
  /-- The bytes of the current field, the last one first. -/
  field : List UInt8 := []
  /-- The fields of the current record, the last one first. -/
  fields : List (List UInt8) := []
  /-- Where the current record starts. -/
  start : Position := ⟨0, 1, 0⟩
  /-- The current line. -/
  line : Nat := 1
  /-- The number of bytes read. -/
  byte : Nat := 0
  /-- The records that are complete, the last one first. -/
  records : List RawRecord := []
  deriving Inhabited

namespace Scanner

/-- The quote character. -/
def quote : UInt8 := 0x22

/-- A byte that ends a record. -/
def isTerminator (b : UInt8) : Bool :=
  b == 0x0A || b == 0x0D

/-- Takes a byte into the current field. -/
def push (s : Scanner) (state : State) (b : UInt8) : Scanner :=
  { s with state, field := b :: s.field }

/-- Ends the current field. -/
def endField (s : Scanner) : Scanner :=
  { s with state := .fieldStart, field := [], fields := s.field.reverse :: s.fields }

/-- Ends the current record. The next one is looked for from here on. -/
def endRecord (s : Scanner) (state : State) : Scanner :=
  { s with
    state
    field := []
    fields := []
    start := ⟨s.start.record + 1, s.line, s.byte⟩
    records := ⟨s.start, (s.field.reverse :: s.fields).reverse⟩ :: s.records }

/-- Ends a record at its terminator. -/
def terminate (s : Scanner) (b : UInt8) : Scanner :=
  s.endRecord (if b = 0x0D then .afterReturn else .recordStart)

/-- A byte of a field that is not inside quotes. -/
def plainByte (delimiter : UInt8) (s : Scanner) (b : UInt8) : Scanner :=
  if b = delimiter then s.endField
  else if isTerminator b then s.terminate b
  else s.push .plain b

/-- A byte at the start of a field. -/
def fieldByte (delimiter : UInt8) (s : Scanner) (b : UInt8) : Scanner :=
  if b = quote then { s with state := .quoted } else plainByte delimiter s b

/-- A byte at the start of a record; terminators there belong to empty lines. -/
def recordByte (delimiter : UInt8) (s : Scanner) (b : UInt8) : Scanner :=
  if isTerminator b then { s with state := .recordStart } else fieldByte delimiter s b

/-- Reads one byte. -/
def step (delimiter : UInt8) (s : Scanner) (b : UInt8) : Scanner :=
  let s := { s with byte := s.byte + 1, line := if b = 0x0A then s.line + 1 else s.line }
  match s.state with
  | .recordStart => recordByte delimiter s b
  | .fieldStart => fieldByte delimiter s b
  | .plain => plainByte delimiter s b
  | .quoted => if b = quote then { s with state := .afterQuote } else s.push .quoted b
  | .afterQuote => if b = quote then s.push .quoted b else plainByte delimiter s b
  | .afterReturn => if b = 0x0A then { s with state := .recordStart } else recordByte delimiter s b

/-- The end of the file ends a record that has been started. -/
def finish (s : Scanner) : List RawRecord :=
  match s.state with
  | .recordStart | .afterReturn => s.records.reverse
  | _ => (s.endRecord .recordStart).records.reverse

end Scanner

/-- The records of a file. A byte order mark in front is no data, but its bytes count. -/
def rawRecords (delimiter : UInt8) (bytes : List UInt8) : List RawRecord :=
  match bytes with
  | 0xEF :: 0xBB :: 0xBF :: rest =>
    (rest.foldl (Scanner.step delimiter) { byte := 3 }).finish
  | _ => (bytes.foldl (Scanner.step delimiter) {}).finish

/-- Why a file of separated values cannot be read. -/
inductive ReadError where
  /-- A record has another number of fields than the first one. -/
  | unequalLengths (position : Position) (length expected : Nat)
  /-- A field is not UTF-8 from a given byte on. -/
  | invalidUtf8 (position : Position) (field byte : Nat)
  deriving DecidableEq, Repr

/-- The message for the user. -/
def ReadError.message : ReadError → String
  | unequalLengths p length expected =>
    s!"CSV error: record {p.record} (line: {p.line}, byte: {p.byte}): found record with "
      ++ s!"{length} fields, but the previous record has {expected} fields"
  | invalidUtf8 p field byte =>
    s!"CSV parse error: record {p.record} (line {p.line}, field: {field}, byte: {p.byte}): "
      ++ s!"invalid utf-8: invalid UTF-8 in field {field} near byte index {byte}"

/-- The texts of a record that should have so many fields. -/
def RawRecord.texts (expected : Nat) (r : RawRecord) : Except ReadError (List String) :=
  if r.fields.length ≠ expected then
    .error (.unequalLengths r.position r.fields.length expected)
  else
    r.fields.zipIdx.mapM fun (bytes, index) =>
      (Text.decode bytes).mapError (.invalidUtf8 r.position index)

/-- The texts of all records of a file. -/
def read (delimiter : UInt8) (bytes : List UInt8) : Except ReadError (List (List String)) :=
  let records := rawRecords delimiter bytes
  match records with
  | [] => .ok []
  | first :: _ => records.mapM (RawRecord.texts first.fields.length)

end Chartboard.Csv
