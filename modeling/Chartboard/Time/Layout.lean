import Chartboard.Text.Blank
import Chartboard.Time.Calendar

/-!
# Date and time layouts

A layout is a sequence of items that together take a whole text. Numbers of the free layouts may
have blanks in front and fewer digits than usual; those of the timestamp layout with an offset have
exactly as many as they should.
-/

namespace Chartboard

/-- A part of a date and time. -/
inductive TimePart where
  /-- The year. -/
  | year
  /-- The month, from one on. -/
  | month
  /-- The day of the month, from one on. -/
  | day
  /-- The hour. -/
  | hour
  /-- The minute. -/
  | minute
  /-- The second; sixty counts as one more than fifty-nine. -/
  | second
  deriving DecidableEq, Repr

/-- A date and time as far as it has been read. -/
structure Moment where
  /-- The year. -/
  year : Int := 1970
  /-- The month. -/
  month : Nat := 1
  /-- The day of the month. -/
  day : Nat := 1
  /-- The hour. -/
  hour : Nat := 0
  /-- The minute. -/
  minute : Nat := 0
  /-- The second. -/
  second : Nat := 0
  /-- The billionths of a second. -/
  nanos : Nat := 0
  /-- How many minutes the clock is ahead of universal time. -/
  offset : Int := 0
  deriving DecidableEq, Repr, Inhabited

namespace Moment

/-- The moment with one part replaced. -/
def set (m : Moment) (part : TimePart) (value : Nat) : Moment :=
  match part with
  | .year => { m with year := value }
  | .month => { m with month := value }
  | .day => { m with day := value }
  | .hour => { m with hour := value }
  | .minute => { m with minute := value }
  | .second => { m with second := value }

/-- The date exists and the time of day is one of the clock. -/
def isValid (m : Moment) : Bool :=
  Date.isValid ⟨m.year, m.month, m.day⟩ && Date.firstYear ≤ m.year && m.year ≤ Date.lastYear
    && m.hour ≤ 23 && m.minute ≤ 59 && m.second ≤ 60

/-- The milliseconds since the start of 1970, rounded down. -/
def toMillis (m : Moment) : Int :=
  let seconds : Int := (m.hour : Int) * 3600 + m.minute * 60 + m.second - m.offset * 60
  Date.toDays ⟨m.year, m.month, m.day⟩ * 86400000 + seconds * 1000 + (m.nanos / 1000000 : Nat)

end Moment

/-- An item of a layout. -/
inductive LayoutItem where
  /-- A year of up to four digits, or of any number of digits behind a sign. -/
  | freeYear
  /-- A number of one or two digits. -/
  | free (part : TimePart)
  /-- A number of exactly so many digits. -/
  | exact (part : TimePart) (digits : Nat)
  /-- One of some characters. -/
  | oneOf (chars : List Char)
  /-- Any number of blanks, or none. -/
  | blanks
  /-- A point and digits, or nothing. -/
  | fraction
  /-- The letter for universal time, or a sign with hours and minutes. -/
  | offset
  deriving DecidableEq, Repr

namespace LayoutItem

/-- A moment and the text behind what was read. -/
abbrev Reading := Moment × List Char

/-- The value of some digits. -/
def number (digits : List Char) : Nat :=
  digits.foldl (fun n c => n * 10 + (c.toNat - '0'.toNat)) 0

/-- The leading digits, at most so many, and the text behind them. -/
def takeDigits (atMost : Nat) (cs : List Char) : List Char × List Char :=
  let digits := (cs.takeWhile Char.isDigit).take atMost
  (digits, cs.drop digits.length)

/-- The text from the first character that is no blank. -/
def skipBlanks (cs : List Char) : List Char :=
  cs.dropWhile Text.isBlank

/-- The first nine digits of a fraction as billionths. -/
def toNanos (digits : List Char) : Nat :=
  let kept := digits.take 9
  number kept * Nat.pow 10 (9 - kept.length)

/-- Reads a number of between so many and so many digits. -/
def readNumber (atLeast atMost : Nat) (cs : List Char) : Option (Nat × List Char) :=
  let (digits, rest) := takeDigits atMost cs
  if digits.length < atLeast then none else some (number digits, rest)

/-- The signs of an offset: whether it is negative, and the rest. -/
def readSign : List Char → Option (Bool × List Char)
  | '+' :: rest => some (false, rest)
  | '-' :: rest => some (true, rest)
  | '−' :: rest => some (true, rest)
  | _ => none

/-- Reads an item. -/
def read (m : Moment) (cs : List Char) : LayoutItem → Option Reading
  | freeYear =>
    match skipBlanks cs with
    | '-' :: rest => do
      let (n, rest) ← readNumber 1 rest.length rest
      pure ({ m with year := -(n : Int) }, rest)
    | '+' :: rest => do
      let (n, rest) ← readNumber 1 rest.length rest
      pure (m.set .year n, rest)
    | cs => do
      let (n, rest) ← readNumber 1 4 cs
      pure (m.set .year n, rest)
  | free part => do
    let (n, rest) ← readNumber 1 2 (skipBlanks cs)
    pure (m.set part n, rest)
  | exact part digits => do
    let (n, rest) ← readNumber digits digits cs
    pure (m.set part n, rest)
  | oneOf chars =>
    match cs with
    | c :: rest => if chars.contains c then some (m, rest) else none
    | [] => none
  | blanks => some (m, skipBlanks cs)
  | fraction =>
    match cs with
    | '.' :: rest =>
      let digits := rest.takeWhile Char.isDigit
      if digits.isEmpty then none
      else some ({ m with nanos := toNanos digits }, rest.dropWhile Char.isDigit)
    | cs => some (m, cs)
  | offset =>
    match cs with
    | 'Z' :: rest | 'z' :: rest => some (m, rest)
    | cs => do
      let (negative, rest) ← readSign cs
      let (hours, rest) ← readNumber 2 2 rest
      let ':' :: rest := rest | none
      let (minutes, rest) ← readNumber 2 2 rest
      if hours ≤ 23 ∧ minutes ≤ 59 then
        let ahead : Int := (hours * 60 + minutes : Nat)
        pure ({ m with offset := if negative then -ahead else ahead }, rest)
      else none

end LayoutItem

/-- A sequence of items that takes a whole text. -/
abbrev Layout := List LayoutItem

namespace Layout

/-- Reads the items of a layout one after the other; nothing may be left. -/
def readFrom (m : Moment) (cs : List Char) : Layout → Option Moment
  | [] => if cs.isEmpty then some m else none
  | item :: rest =>
    match item.read m cs with
    | some (m, cs) => readFrom m cs rest
    | none => none

/-- The moment of a text in a layout. -/
def read? (layout : Layout) (text : String) : Option Moment :=
  (readFrom {} text.toList layout).filter Moment.isValid

open LayoutItem in
/-- Year, month and day with a separator between them, of free width. -/
def freeDate (separator : Char) : Layout :=
  [freeYear, oneOf [separator], free .month, oneOf [separator], free .day]

open LayoutItem in
/-- Hour, minute and second with colons between them, of free width. -/
def freeTime : Layout :=
  [free .hour, oneOf [':'], free .minute, oneOf [':'], free .second]

open LayoutItem in
/-- Date and time with an offset, every number of its full width. -/
def withOffset : Layout :=
  [exact .year 4, oneOf ['-'], exact .month 2, oneOf ['-'], exact .day 2, oneOf ['T', 't', ' '],
   exact .hour 2, oneOf [':'], exact .minute 2, oneOf [':'], exact .second 2, fraction, offset]

open LayoutItem in
/-- The layouts of dates with times and of dates alone, in the order in which they are tried. -/
def all : List Layout :=
  [withOffset,
   freeDate '-' ++ [blanks] ++ freeTime,
   freeDate '-' ++ [oneOf ['T']] ++ freeTime,
   freeDate '-' ++ [blanks] ++ freeTime ++ [fraction],
   freeDate '-' ++ [oneOf ['T']] ++ freeTime ++ [fraction],
   freeDate '/' ++ [blanks] ++ freeTime,
   freeDate '-',
   freeDate '/']

end Layout

/-- The milliseconds since the start of 1970 of a text in one of the layouts. -/
def millisOfText? (text : String) : Option Int :=
  (Layout.all.findSome? fun layout => layout.read? text).map Moment.toMillis

end Chartboard
