import CrossStitch.Files.Fault
import CrossStitch.Text.Signed

/-! What can go wrong between a chart's source and its rendering. A fault names
its cause as data; the words for it are put together here and nowhere else. -/

namespace CrossStitch

/-- Faults of the chart itself: of its block grammar, of its actions, or of the
pattern that is to be drawn. -/
inductive ChartFault
  | invalidStartBlock
  | singleLineBlockInvalid
  | emptyBlock
  | unclosedBlock (count : Nat)
  | expectedStartOfBlock
  | includeDepthExceeded (limit : Nat)
  | invalidPaletteAssignment
  | onlySingleCharactersAllowed
  | characterReused
  | patternNotCommitted
  | incorrectStitchModeSetting
  | stitchingNotCommitted
  | invalidOffset
  | offsetFormatInvalid
  | invalidInteger (fault : Text.IntegerFault)
  | unknownAction
  | noPattern
  | invalidStitchMode
  | unknownModeInBlock
  | uncommittedPattern
  | noBlocksFound
  | noActionsCommitted
  | symbolUnknown
  | invalidSize
  | incompatibleLineCombination
  | crossStitchLineConflict
  | chartTooLarge (size : Nat)
  deriving DecidableEq, Repr

def ChartFault.message : ChartFault → String
  | .invalidStartBlock => "invalid start block"
  | .singleLineBlockInvalid => "single-line start of block invalid"
  | .emptyBlock => "empty block found"
  | .unclosedBlock count => "unclosed block at block: " ++ toString count
  | .expectedStartOfBlock => "expected start of block"
  | .includeDepthExceeded limit => "include nested deeper than " ++ toString limit ++ " levels"
  | .invalidPaletteAssignment => "invalid palette assignment"
  | .onlySingleCharactersAllowed => "only single characters allowed"
  | .characterReused => "character re-used within palette"
  | .patternNotCommitted => "pattern not committed"
  | .incorrectStitchModeSetting => "incorrect stitch mode setting"
  | .stitchingNotCommitted => "stitching not committed"
  | .invalidOffset => "invalid offset"
  | .offsetFormatInvalid => "offset should be Width[x]Height"
  | .invalidInteger fault => fault.message
  | .unknownAction => "unknown action"
  | .noPattern => "no pattern"
  | .invalidStitchMode => "invalid stitch mode"
  | .unknownModeInBlock => "unknown mode in block"
  | .uncommittedPattern => "uncommitted pattern"
  | .noBlocksFound => "no blocks found"
  | .noActionsCommitted => "no actions, nothing committed?"
  | .symbolUnknown => "symbol unknown"
  | .invalidSize => "invalid size <= 0"
  | .incompatibleLineCombination =>
    "unable to combine horizontal/vertical line with diagonal line"
  | .crossStitchLineConflict => "perform a cross stitch, not 2 different lines"
  | .chartTooLarge size => "chart of size " ++ toString size ++ " too large to render"

/-- Faults of a render option. -/
inductive OptionFault
  | notKeyValue
  | unknownKey
  | notBoolean
  deriving DecidableEq, Repr

def OptionFault.message : OptionFault → String
  | .notKeyValue => "invalid key=value pair"
  | .unknownKey => "unknown option"
  | .notBoolean => "invalid boolean value"

/-- What a failed file access was for. -/
inductive FilePurpose
  | readConfig
  | readChart
  | writeOutput
  deriving DecidableEq, Repr

def FilePurpose.failure : FilePurpose → String
  | .readConfig => "Failed to read config: "
  | .readChart => "Failed to read chart: "
  | .writeOutput => "Failed to write output: "

/-- Everything that can end an operation. -/
inductive Fault
  /-- The chart is at fault; `trace` holds the source lines that led to it. -/
  | chart (kind : ChartFault) (trace : List String)
  /-- A file named in an include block cannot be read. -/
  | unreadableInclude (path : String) (cause : FileFault) (trace : List String)
  | option (kind : OptionFault)
  | unknownFormat (name : String)
  | file (path : String) (purpose : FilePurpose) (cause : FileFault)
  /-- Standard input is not text. -/
  | standardInput (cause : FileFault)
  | config (reason : String)
  deriving DecidableEq, Repr

namespace Fault

/-- A fault of the chart that no source line can be blamed for. -/
def bare (kind : ChartFault) : Fault := .chart kind []

def message : Fault → String
  | .chart kind _ => "parsing: " ++ kind.message
  | .unreadableInclude _ cause _ => cause.message
  | .option kind => "options: " ++ kind.message
  | .unknownFormat name => "unknown format: " ++ name
  | .file path purpose cause => "IO error with " ++ path ++ ": " ++ purpose.failure ++ cause.message
  | .standardInput cause => "IO error with <stdin>: " ++ cause.message
  | .config reason => "Config error: Invalid config: " ++ reason

/-- The fault's class, by which it can be looked up. -/
def code : Fault → String
  | .chart .. => "stitch::parse"
  | .unreadableInclude .. => "stitch::include"
  | .option _ => "stitch::options"
  | .unknownFormat _ => "stitch::format"
  | .file .. => "stitch::io"
  | .standardInput _ => "stitch::io"
  | .config _ => "stitch::config"

/-- Advice on how to mend the fault. -/
def help? : Fault → Option String
  | .option _ => some "options are given as key=value, e.g. ascii-no-delimiter=true"
  | .unknownFormat _ => some "supported formats are ascii and html"
  | .config _ => some "Check stitch.yaml syntax"
  | _ => none

/-- The source lines that led to the fault. -/
def trace : Fault → List String
  | .chart _ lines => lines
  | .unreadableInclude _ _ lines => lines
  | _ => []

end Fault

end CrossStitch
