import Chartboard.Data.Source
import Chartboard.Text.Natural

/-!
# Command lines

A command line names a command and gives it settings. A setting has its value behind an equals sign
or in the next argument, and nothing may be given twice. Arguments are read from the left, and the
first one that asks for help or that is wrong decides.
-/

namespace Chartboard

/-- How a file of separated values is to be read. -/
structure FileFormat where
  /-- The character between two fields. -/
  delimiter : Char := ','
  /-- The first record names the columns. -/
  hasHeader : Bool := true
  /-- The number of rows from which types are detected. -/
  sampleSize : Nat := DetectedSchema.defaultSampleSize
  deriving DecidableEq, Repr, Inhabited

/-- What the program is to do. -/
inductive Command where
  /-- It describes the columns of a file, and shows the first rows if a number is given. -/
  | profile (csv : String) (format : FileFormat) (preview : Option Nat)
  /-- It shows what the charts of a dashboard ask, and checks them against a file if one is
  given. -/
  | compile (dashboard : String) (csv : Option String) (format : FileFormat)
  /-- It draws the charts of a dashboard from a file, perhaps with a selected point. -/
  | render (csv dashboard : String) (selection : Option String) (format : FileFormat)
  deriving DecidableEq, Repr

/-- A command and how its result is printed. -/
structure Invocation where
  /-- What the program is to do. -/
  command : Command
  /-- The result is printed over several lines. -/
  pretty : Bool
  deriving DecidableEq, Repr

/-- Why a command line is not carried out. -/
inductive Halt where
  /-- It asks for help. -/
  | help
  /-- It asks for the version. -/
  | version
  /-- It is wrong. -/
  | misuse
  deriving DecidableEq, Repr

/-- The names of the commands. -/
inductive CommandName where
  /-- Describes a file. -/
  | profile
  /-- Shows queries. -/
  | compile
  /-- Draws charts. -/
  | render
  deriving DecidableEq, Repr

/-- The command that a name stands for. -/
def CommandName.ofText? : String → Option CommandName
  | "profile" => some .profile
  | "compile" => some .compile
  | "render" => some .render
  | _ => none

/-- What can be set to a value. -/
inductive Setting where
  /-- The file that a command is about, which is given without a name. -/
  | file
  /-- The character between two fields. -/
  | delimiter
  /-- The number of rows from which types are detected. -/
  | sampleSize
  /-- The number of rows that are shown. -/
  | preview
  /-- The dashboard. -/
  | dashboard
  /-- The file that a dashboard is checked against. -/
  | csv
  /-- The selected point. -/
  | selection
  deriving DecidableEq, Repr

/-- What can be switched on. -/
inductive Switch where
  /-- The first record is data. -/
  | noHeader
  /-- The result is printed over several lines. -/
  | pretty
  deriving DecidableEq, Repr

namespace CommandName

/-- The named settings of a command. -/
def settings : CommandName → List (String × Setting)
  | profile =>
    [("delimiter", .delimiter), ("sample-size", .sampleSize), ("preview", .preview)]
  | compile =>
    [("dashboard", .dashboard), ("csv", .csv), ("delimiter", .delimiter),
      ("sample-size", .sampleSize)]
  | render =>
    [("dashboard", .dashboard), ("select", .selection), ("delimiter", .delimiter),
      ("sample-size", .sampleSize)]

/-- The command takes a file without a name. -/
def takesFile : CommandName → Bool
  | compile => false
  | _ => true

end CommandName

/-- The switch of a name; all commands have the same. -/
def Switch.ofText? : String → Option Switch
  | "no-header" => some .noHeader
  | "pretty" => some .pretty
  | _ => none

/-- What has been given so far. -/
structure Given where
  /-- The file that the command is about. -/
  file : Option String := none
  /-- The character between two fields. -/
  delimiter : Option Char := none
  /-- The number of rows from which types are detected. -/
  sampleSize : Option Nat := none
  /-- The number of rows that are shown. -/
  preview : Option Nat := none
  /-- The dashboard. -/
  dashboard : Option String := none
  /-- The file that a dashboard is checked against. -/
  csv : Option String := none
  /-- The selected point. -/
  selection : Option String := none
  /-- The first record is data. -/
  noHeader : Bool := false
  /-- The result is printed over several lines. -/
  pretty : Bool := false
  deriving DecidableEq, Repr, Inhabited

namespace Given

/-- A value that has not been given before. -/
def once {α : Type} (old new : Option α) : Option α :=
  if old.isSome then none else new

/-- A path, which is never empty. -/
def pathOf? (text : String) : Option String :=
  if text.isEmpty then none else some text

/-- A text of exactly one character. -/
def charOf? (text : String) : Option Char :=
  match text.toList with
  | [c] => some c
  | _ => none

/-- A number of things in memory. -/
def countOf? (text : String) : Option Nat :=
  (Text.natural Text.countBound text).toOption

/-- Gives a value to a setting; none if it has one or the value does not suit it. -/
def set? (g : Given) (setting : Setting) (text : String) : Option Given :=
  match setting with
  | .file => (once g.file (pathOf? text)).map fun v => { g with file := some v }
  | .delimiter => (once g.delimiter (charOf? text)).map fun v => { g with delimiter := some v }
  | .sampleSize => (once g.sampleSize (countOf? text)).map fun v => { g with sampleSize := some v }
  | .preview => (once g.preview (countOf? text)).map fun v => { g with preview := some v }
  | .dashboard => (once g.dashboard (pathOf? text)).map fun v => { g with dashboard := some v }
  | .csv => (once g.csv (pathOf? text)).map fun v => { g with csv := some v }
  | .selection => (once g.selection (some text)).map fun v => { g with selection := some v }

/-- Switches something on; none if it is on. -/
def turnOn? (g : Given) : Switch → Option Given
  | .noHeader => if g.noHeader then none else some { g with noHeader := true }
  | .pretty => if g.pretty then none else some { g with pretty := true }

/-- The format of the files. -/
def format (g : Given) : FileFormat :=
  let defaults : FileFormat := {}
  { delimiter := g.delimiter.getD defaults.delimiter
    hasHeader := !g.noHeader
    sampleSize := g.sampleSize.getD defaults.sampleSize }

/-- The command, if nothing that it needs is lacking. -/
def command? (g : Given) : CommandName → Option Command
  | .profile => do pure (.profile (← g.file) g.format g.preview)
  | .compile => do pure (.compile (← g.dashboard) g.csv g.format)
  | .render => do pure (.render (← g.file) (← g.dashboard) g.selection g.format)

end Given

/-- What an argument looks like. -/
inductive Argument where
  /-- Two hyphens alone: only operands follow. -/
  | separator
  /-- A name behind two hyphens, perhaps with a value behind an equals sign. -/
  | long (name : String) (value : Option String)
  /-- Letters behind one hyphen. -/
  | short (letters : List Char)
  /-- Anything else. -/
  | operand (text : String)
  deriving DecidableEq, Repr

namespace Argument

/-- A name and what stands behind the first equals sign. -/
def splitValue (cs : List Char) : String × Option String :=
  let name := cs.takeWhile (· ≠ '=')
  match cs.dropWhile (· ≠ '=') with
  | [] => (String.ofList name, none)
  | _ :: value => (String.ofList name, some (String.ofList value))

/-- What a text looks like as an argument. A hyphen alone is an operand. -/
def ofText (text : String) : Argument :=
  match text.toList with
  | ['-', '-'] => separator
  | '-' :: '-' :: cs =>
    let (name, value) := splitValue cs
    long name value
  | '-' :: c :: cs => short (c :: cs)
  | _ => operand text

end Argument

/-- Goes on with what is there; otherwise the command line is wrong. -/
def orMisuse {α : Type} : Option α → Except Halt α
  | some a => .ok a
  | none => .error .misuse

namespace CommandName

/-- Gives an operand to the command. -/
def takeOperand (name : CommandName) (g : Given) (text : String) : Except Halt Given :=
  if name.takesFile then orMisuse (g.set? .file text) else .error .misuse

/-- Reads the arguments behind the name of a command. `pending` is a setting that still lacks its
value, which cannot be an option. -/
def scan (name : CommandName) : Option Setting → List String → Given → Except Halt Given
  | none, [], g => .ok g
  | some _, [], _ => .error .misuse
  | some setting, text :: rest, g =>
    match Argument.ofText text with
    | .operand value => do scan name none rest (← orMisuse (g.set? setting value))
    | _ => .error .misuse
  | none, text :: rest, g =>
    match Argument.ofText text with
    | .separator => rest.foldlM (takeOperand name) g
    | .operand value => do scan name none rest (← takeOperand name g value)
    | .short letters => .error (if letters.head? = some 'h' then .help else .misuse)
    | .long "help" none => .error .help
    | .long option value =>
      match name.settings.lookup option, Switch.ofText? option, value with
      | some setting, _, some value => do scan name none rest (← orMisuse (g.set? setting value))
      | some setting, _, none => scan name (some setting) rest g
      | none, some switch, none => do scan name none rest (← orMisuse (g.turnOn? switch))
      | none, _, _ => .error .misuse

end CommandName

namespace Invocation

/-- Reads what follows the name of the command `help`: the name of a command at most. -/
def helpOn : List String → Halt
  | [] | ["help"] => .help
  | [text] => if (CommandName.ofText? text).isSome then .help else .misuse
  | _ => .misuse

/-- Reads a command line. In front of the name of the command the result can be asked for over
several lines. -/
def ofArguments (pretty : Bool) : List String → Except Halt Invocation
  | [] => .error .misuse
  | text :: rest =>
    match Argument.ofText text with
    | .separator => .error .misuse
    | .short letters =>
      .error (match letters.head? with
        | some 'h' => .help
        | some 'V' => .version
        | _ => .misuse)
    | .long "help" none => .error .help
    | .long "version" none => .error .version
    | .long "pretty" none => if pretty then .error .misuse else ofArguments true rest
    | .long _ _ => .error .misuse
    | .operand "help" => .error (helpOn rest)
    | .operand text => do
      let name ← orMisuse (CommandName.ofText? text)
      let g ← name.scan none rest {}
      pure { command := ← orMisuse (g.command? name), pretty := pretty || g.pretty }

end Invocation

end Chartboard
