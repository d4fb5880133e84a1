import CrossStitch.Render.Format

/-! The command line's arguments. Options are long (`--input chart.txt` or
`--input=chart.txt`) or short (`-i chart.txt`, `-ichart.txt` or `-i=chart.txt`), and
short flags may share a dash. There are no positional arguments. A value that is an
argument of its own is checked only when the next argument is understood or the
line ends, so an unknown argument after it is reported first. -/

namespace CrossStitch

inductive Shell
  | bash
  | elvish
  | fish
  | powershell
  | zsh
  deriving DecidableEq, Repr

def Shell.name : Shell → String
  | .bash => "bash"
  | .elvish => "elvish"
  | .fish => "fish"
  | .powershell => "powershell"
  | .zsh => "zsh"

def Shell.ofName? : String → Option Shell
  | "bash" => some .bash
  | "elvish" => some .elvish
  | "fish" => some .fish
  | "powershell" => some .powershell
  | "zsh" => some .zsh
  | _ => none

/-- Why the arguments are not run. -/
inductive UsageFault
  | invalidValue
  | unknownArgument
  | argumentConflict
  | tooManyValues
  | displayHelp
  | displayVersion
  deriving DecidableEq, Repr

structure Arguments where
  /-- The chart file; standard input if there is none. -/
  input : Option String
  /-- The file to write; standard output if there is none. -/
  output : Option String
  format : Option Format
  options : List String
  config : Option String
  verbose : Bool
  completions : Option Shell
  deriving DecidableEq, Repr

/-- The options that take a value. -/
inductive Setting
  | input
  | output
  | format
  | option
  | config
  | completions
  deriving DecidableEq, Repr

inductive Flag
  | verbose
  | help
  | version
  deriving DecidableEq, Repr

/-- What the name of an option stands for. -/
inductive Switch
  | setting (setting : Setting)
  | flag (flag : Flag)
  deriving DecidableEq, Repr

def Switch.ofLong? : String → Option Switch
  | "input" => some (.setting .input)
  | "output" => some (.setting .output)
  | "format" => some (.setting .format)
  | "option" => some (.setting .option)
  | "config" => some (.setting .config)
  | "completions" => some (.setting .completions)
  | "verbose" => some (.flag .verbose)
  | "help" => some (.flag .help)
  | "version" => some (.flag .version)
  | _ => none

def Switch.ofShort? : Char → Option Switch
  | 'i' => some (.setting .input)
  | 'o' => some (.setting .output)
  | 'f' => some (.setting .format)
  | 'v' => some (.flag .verbose)
  | 'h' => some (.flag .help)
  | 'V' => some (.flag .version)
  | _ => none

namespace Arguments

def none : Arguments := ⟨.none, .none, .none, [], .none, false, .none⟩

/-- A value that an option may be given once. -/
def once {α : Type} (current : Option α) (value : Option α) : Except UsageFault (Option α) :=
  match current, value with
  | some _, _ => .error .argumentConflict
  | .none, some value => .ok (some value)
  | .none, .none => .error .invalidValue

/-- A path, which may not be empty. -/
def pathOf? (value : String) : Option String :=
  if value.isEmpty then .none else some value

/-- The arguments with a setting's value. Giving a setting twice is reported before
a bad value. -/
def assign (arguments : Arguments) (setting : Setting) (value : String) :
    Except UsageFault Arguments :=
  match setting with
  | .input => (once arguments.input (pathOf? value)).map fun input => { arguments with input }
  | .output => (once arguments.output (pathOf? value)).map fun output => { arguments with output }
  | .format =>
    (once arguments.format (Format.ofName? value)).map fun format => { arguments with format }
  | .option => .ok { arguments with options := arguments.options ++ [value] }
  | .config => (once arguments.config (pathOf? value)).map fun config => { arguments with config }
  | .completions =>
    (once arguments.completions (Shell.ofName? value)).map fun completions =>
      { arguments with completions }

end Arguments

/-- The arguments understood so far. -/
structure ArgumentReader where
  arguments : Arguments
  /-- A setting named by the arguments before, and its value once that has come. -/
  pending : Option (Setting × Option String)

namespace ArgumentReader

def start : ArgumentReader := ⟨Arguments.none, none⟩

/-- Takes the pending setting into the arguments; its value must have come. -/
def settle (reader : ArgumentReader) : Except UsageFault Arguments :=
  match reader.pending with
  | none => .ok reader.arguments
  | some (_, none) => .error .invalidValue
  | some (setting, some value) => reader.arguments.assign setting value

/-- A setting whose value is part of the same argument. -/
def attach (reader : ArgumentReader) (setting : Setting) (value : String) :
    Except UsageFault ArgumentReader := do
  return ⟨← (← reader.settle).assign setting value, none⟩

/-- A setting whose value is to be the next argument. -/
def await (reader : ArgumentReader) (setting : Setting) : Except UsageFault ArgumentReader := do
  return ⟨← reader.settle, some (setting, none)⟩

def raise (reader : ArgumentReader) (flag : Flag) : Except UsageFault ArgumentReader := do
  let arguments ← reader.settle
  match flag with
  | .help => throw .displayHelp
  | .version => throw .displayVersion
  | .verbose =>
    if arguments.verbose then throw .argumentConflict
    else return ⟨{ arguments with verbose := true }, none⟩

/-- An argument after two dashes. -/
def readLong (reader : ArgumentReader) (text : List Char) : Except UsageFault ArgumentReader :=
  let name := text.takeWhile (· != '=')
  match Switch.ofLong? (String.ofList name), text.dropWhile (· != '=') with
  | none, _ => .error .unknownArgument
  | some (.setting setting), [] => reader.await setting
  | some (.setting setting), _ :: value => reader.attach setting (String.ofList value)
  | some (.flag flag), [] => reader.raise flag
  | some (.flag _), _ :: _ => .error .tooManyValues

/-- The characters after one dash: flags, and at the end perhaps a setting with its
value. -/
def readShort (reader : ArgumentReader) : List Char → Except UsageFault ArgumentReader
  | [] => .ok reader
  | c :: rest =>
    match Switch.ofShort? c with
    | none => .error .unknownArgument
    | some (.flag flag) => do readShort (← reader.raise flag) rest
    | some (.setting setting) =>
      match rest with
      | [] => reader.await setting
      | '=' :: value => reader.attach setting (String.ofList value)
      | value => reader.attach setting (String.ofList value)

/-- Reads arguments in order. After a bare double dash every argument is
positional, and so unknown. -/
def readAll (reader : ArgumentReader) : List String → Except UsageFault Arguments
  | [] => reader.settle
  | argument :: rest =>
    match argument.toList with
    | ['-', '-'] => if rest.isEmpty then reader.settle else .error .unknownArgument
    | '-' :: '-' :: text => do readAll (← reader.readLong text) rest
    | '-' :: c :: text => do readAll (← reader.readShort (c :: text)) rest
    | _ =>
      match reader.pending with
      | some (setting, none) =>
        readAll { reader with pending := some (setting, some argument) } rest
      | _ => .error .unknownArgument

end ArgumentReader

/-- Reads a command line, without the program's name. -/
def readArguments (line : List String) : Except UsageFault Arguments :=
  ArgumentReader.start.readAll line

end CrossStitch
