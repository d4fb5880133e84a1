import CrossStitch.Action.Basic
import CrossStitch.Block.Basic
import CrossStitch.Colour.Table
import CrossStitch.Fault
import CrossStitch.Text.Blank
import CrossStitch.Text.Cut

/-! Turning blocks into actions. One action is in preparation at a time. Blocks
set its parts, and `action => {commit}` seals it. The next action starts with the
palette and the offset of the one before, but with no drawing and no mode. A block
that is refused changes nothing, except that a palette block has by then replaced
the palette by its assignments up to the one at fault. -/

namespace CrossStitch

/-- The blocks that have a meaning once includes are followed. -/
inductive BlockKind
  | palette
  | pattern
  | mode
  | offset
  | action
  deriving DecidableEq, Repr

def BlockKind.ofWord? : String → Option BlockKind
  | "palette" => some .palette
  | "pattern" => some .pattern
  | "mode" => some .mode
  | "offset" => some .offset
  | "action" => some .action
  | _ => none

/-- The mark between a symbol and its colour. -/
def assignmentMark : List Char := [' ', '=', '>', ' ']

/-- The mark between the two numbers of an offset. -/
def offsetMark : List Char := ['x']

/-- The one thing an action block can ask for. -/
def commitWord : String := "commit"

/-- The spelling of the colour in a line that gives a symbol its colour. -/
def spelling? (line : String) : Option String :=
  match Text.pair? assignmentMark line.toList with
  | some ([_], colour) => some (String.ofList (Text.trim colour))
  | _ => none

/-- The spellings of colours that a block writes, if it is a palette block. -/
def Block.spellings (block : Block) : List String :=
  if BlockKind.ofWord? block.mode = some .palette then block.lines.filterMap spelling? else []

/-- The action in preparation and the actions committed, in order. -/
structure Session where
  current : Action
  committed : List Action

namespace Session

def start : Session := ⟨Action.blank, []⟩

/-! ### Palettes -/

/-- Reads one line of a palette block, given the assignments of the lines before. -/
def readAssignment (colours : ColourTable) (palette : Palette) (line : String) :
    Except ChartFault PaletteEntry :=
  match Text.pair? assignmentMark line.toList with
  | none => .error .invalidPaletteAssignment
  | some ([symbol], colour) =>
    if palette.contains symbol then .error .characterReused
    else
      let raw := String.ofList (Text.trim colour)
      .ok ⟨symbol, raw, colours.resolveOrLiteral raw⟩
  | some _ => .error .onlySingleCharactersAllowed

/-- Adds the assignments of the lines to a palette, up to the first line at fault. -/
def readPalette (colours : ColourTable) (palette : Palette) :
    List String → Palette × Option ChartFault
  | [] => (palette, none)
  | line :: rest =>
    match readAssignment colours palette line with
    | .error kind => (palette, some kind)
    | .ok entry => readPalette colours (palette.insert entry.symbol entry) rest

/-! ### The other parts of an action -/

def takePattern (action : Action) (lines : List String) : Except ChartFault Action :=
  if action.hasPattern then .error .patternNotCommitted
  else .ok { action with rows := lines }

/-- The mode may be named again, but not changed, before the action is committed. -/
def takeMode (action : Action) (lines : List String) : Except ChartFault Action :=
  match lines with
  | [word] =>
    match StitchMode.ofToken? word with
    | none => .error .incorrectStitchModeSetting
    | some mode =>
      if action.mode.any (· != mode) then .error .stitchingNotCommitted
      else .ok { action with mode := some mode }
  | _ => .error .incorrectStitchModeSetting

/-- One number of an offset, with blanks around it allowed. -/
def readNumber (text : List Char) : Except ChartFault Int32 :=
  match Text.readInt32 (Text.trim text) with
  | .error fault => .error (.invalidInteger fault)
  | .ok value => .ok value

def takeOffset (action : Action) (lines : List String) : Except ChartFault Action :=
  match lines with
  | [line] =>
    match Text.pair? offsetMark line.toList with
    | none => .error .offsetFormatInvalid
    | some (left, right) => do
      let x ← readNumber left
      let y ← readNumber right
      return { action with offset := ⟨x, y⟩ }
  | _ => .error .invalidOffset

/-- Seals the current action. -/
def commit (session : Session) (block : Block) : Except ChartFault Session :=
  if !block.isSingle commitWord then .error .unknownAction
  else if !session.current.hasPattern then .error .noPattern
  else if session.current.mode.isNone then .error .invalidStitchMode
  else .ok {
    current := { session.current with rows := [], mode := none }
    committed := session.committed ++ [session.current] }

/-! ### Feeding blocks -/

/-- The outcome of a block that is either accepted or changes nothing. -/
def settle (session : Session) (block : Block) :
    Except ChartFault Session → Session × Except Fault Unit
  | .ok next => (next, .ok ())
  | .error kind => (session, .error (.chart kind block.lines))

/-- `settle` for a block that concerns the current action only. -/
def settleCurrent (session : Session) (block : Block) (result : Except ChartFault Action) :
    Session × Except Fault Unit :=
  session.settle block (result.map fun action => { session with current := action })

/-- Applies one block. A fault is traced to the lines of the block. -/
def feed (colours : ColourTable) (session : Session) (block : Block) :
    Session × Except Fault Unit :=
  match BlockKind.ofWord? block.mode with
  | none => session.settle block (.error .unknownModeInBlock)
  | some .palette =>
    let (palette, fault?) := readPalette colours ∅ block.lines
    let next := { session with current := { session.current with palette } }
    match fault? with
    | none => (next, .ok ())
    | some kind => (next, .error (.chart kind block.lines))
  | some .pattern => session.settleCurrent block (takePattern session.current block.lines)
  | some .mode => session.settleCurrent block (takeMode session.current block.lines)
  | some .offset => session.settleCurrent block (takeOffset session.current block.lines)
  | some .action => session.settle block (session.commit block)

/-- Applies one block with the names looked up by a resolver, which is asked for nothing but the
spellings in the block. -/
def feedBy (resolver : Resolver) (session : Session) (block : Block) :
    Session × Except Fault Unit :=
  session.feed (resolver.tabulate block.spellings) block

/-- Applies blocks in order, and goes on after those that are refused. -/
def feedEach (resolver : Resolver) (session : Session) (blocks : List Block) : Session :=
  blocks.foldl (fun session block => (session.feedBy resolver block).1) session

/-- The committed actions. A drawing that was never committed is a fault. -/
def finish (session : Session) : Except Fault (List Action) :=
  if session.current.hasPattern then .error (.bare .uncommittedPattern)
  else .ok session.committed

/-- Applies blocks in order up to the first one refused. -/
def feedAll (colours : ColourTable) (session : Session) : List Block → Except Fault Session
  | [] => .ok session
  | block :: rest =>
    match session.feed colours block with
    | (_, .error fault) => .error fault
    | (next, .ok ()) => feedAll colours next rest

end Session

/-- The actions that a list of blocks commits. -/
def actionsOfBlocks (colours : ColourTable) (blocks : List Block) : Except Fault (List Action) := do
  (← Session.start.feedAll colours blocks).finish

end CrossStitch
