import CrossStitch.Block.Reader
import CrossStitch.Colour.Table
import CrossStitch.Files.Tree
import CrossStitch.Render.Format
import CrossStitch.Text.Blank
import CrossStitch.Yaml.Document

/-! Chart configuration. A configuration file sets defaults for what the command
line leaves open; keys it does not know are skipped, and a known key may appear
only once. -/

namespace CrossStitch

structure ChartConfig where
  format : Option Format
  /-- Render options, applied before those of the command line. -/
  options : List String
  /-- Colour names in addition to the built-in ones. -/
  colours : Std.ExtTreeMap String String
  includeDepth : Nat

/-- The file looked for when no configuration file is named. -/
def configFile : String := "stitch.yaml"

namespace ChartConfig

def default : ChartConfig := ⟨none, [], ∅, defaultIncludeLimit⟩

/-! ### Decoding values -/

/-- The plain spellings of "no value", the empty one included. -/
def isNull : Yaml → Bool
  | .scalar text true => ["", "~", "null", "Null", "NULL"].contains text
  | _ => false

/-- Whether nothing at all was written. -/
def isNothing : Yaml → Bool
  | .scalar "" true => true
  | _ => false

/-- Any scalar is a text. -/
def asText : Yaml → Except Fault String
  | .scalar text _ => .ok text
  | _ => .error (.config "expected a string")

def asTexts (value : Yaml) : Except Fault (List String) :=
  match value with
  | .list items => items.mapM asText
  | _ => if isNothing value then .ok [] else .error (.config "expected a sequence")

/-- A map of texts; of entries with the same key the last one counts. -/
def asNames (value : Yaml) : Except Fault (Std.ExtTreeMap String String) :=
  match value with
  | .map entries => do
    let pairs ← entries.mapM fun (key, value) => return (← asText key, ← asText value)
    return pairs.foldl (fun names pair => names.insert pair.1 pair.2) ∅
  | _ => if isNothing value then .ok ∅ else .error (.config "expected a map")

def asFormat (value : Yaml) : Except Fault (Option Format) :=
  if isNull value then .ok none
  else do
    match Format.ofName? (← asText value) with
    | some format => return some format
    | none => throw (.config "unknown variant")

/-- The number some digits denote in a base up to 16; there must be at least one. -/
def digits? (base : Nat) (digits : List Char) : Option Nat :=
  if digits.isEmpty then none
  else digits.foldlM (fun value c => do
    let d ← Yaml.hexDigit? c
    if d < base then some (value * base + d) else none) 0

/-- A number without a sign: decimal without leading zeros, or with a mark for the
bases 16, 8 and 2. A plus in front is allowed. -/
def natural? (text : List Char) : Option Nat :=
  let unsigned := match text with
    | '+' :: rest => rest
    | _ => text
  match unsigned with
  | '0' :: 'x' :: rest => digits? 16 rest
  | '0' :: 'o' :: rest => digits? 8 rest
  | '0' :: 'b' :: rest => digits? 2 rest
  | ['0'] => some 0
  | '0' :: _ => none
  | _ => digits? 10 unsigned

/-- The include limit's bound, that of a machine word. -/
def depthBound : Nat := 18446744073709551616

def asDepth : Yaml → Except Fault Nat
  | .scalar text true =>
    match natural? text.toList with
    | some n => if n < depthBound then .ok n else .error (.config "number out of range")
    | none => .error (.config "expected a number")
  | _ => .error (.config "expected a number")

/-! ### Decoding a configuration -/

/-- The keys that mean something, in the order of a configuration without keys. -/
def knownKeys : List String :=
  ["format", "options", "colors", "include-depth"]

/-- Takes one entry into a configuration. -/
def takeEntry (config : ChartConfig) (key : String) (value : Yaml) : Except Fault ChartConfig :=
  match key with
  | "format" => (asFormat value).map fun format => { config with format }
  | "options" => (asTexts value).map fun options => { config with options }
  | "colors" => (asNames value).map fun colours => { config with colours }
  | "include-depth" => (asDepth value).map fun includeDepth => { config with includeDepth }
  | _ => .ok config

/-- Takes entries in order; `seen` holds the keys of the entries before. -/
def takeEntries (seen : List String) (config : ChartConfig) :
    List (Yaml × Yaml) → Except Fault ChartConfig
  | [] => .ok config
  | (key, value) :: rest => do
    let key ← asText key
    if knownKeys.contains key && seen.contains key then throw (.config "duplicate field")
    takeEntries (key :: seen) (← config.takeEntry key value) rest

/-- The configuration a document describes. A list gives the values of the known keys
in order and may leave out the last ones. -/
def ofYaml : Yaml → Except Fault ChartConfig
  | .map entries => takeEntries [] default entries
  | .list items =>
    if items.length ≤ knownKeys.length then
      (knownKeys.zip items).foldlM (fun config entry => config.takeEntry entry.1 entry.2) default
    else .error (.config "invalid length")
  | value => if isNothing value then .ok default else .error (.config "expected a map")

/-- Reads the text of a configuration file. A blank text sets nothing. -/
def parse (content : String) : Except Fault ChartConfig :=
  if (Text.trim content.toList).isEmpty then .ok default
  else
    match Yaml.read? content with
    | none => .error (.config "malformed document")
    | some none => .ok default
    | some (some value) => ofYaml value

/-! ### Finding a configuration -/

/-- The configuration in a file, given what reading the file gave. -/
def ofRead (path : String) : Except FileFault String → Except Fault ChartConfig
  | .error cause => .error (.file path .readConfig cause)
  | .ok content => parse content

/-- The configuration in the named file, or else in the configuration file of the
directory, or else the default. -/
def discover (files : FileTree) (explicit : Option String) (directory : String) :
    Except Fault ChartConfig :=
  match explicit with
  | some path => ofRead path (files.readText path)
  | none =>
    let path := Path.join directory configFile
    if files.isFile path then ofRead path (files.readText path) else .ok default

/-! ### Using a configuration -/

/-- The built-in colours, overlaid with the configured ones. -/
def namedColours (config : ChartConfig) : ColourTable :=
  ColourTable.builtin.extend config.colours.toList

/-- The render options of the configuration, followed by others. -/
def renderOptions (config : ChartConfig) (overrides : List String) :
    Except Fault RenderOptions :=
  RenderOptions.ofSettings (config.options ++ overrides)

end ChartConfig

end CrossStitch
