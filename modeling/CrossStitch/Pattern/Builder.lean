import CrossStitch.Action.Basic
import CrossStitch.Colour.Table
import CrossStitch.Pattern.Basic

/-! Painting actions into a pattern. Strokes are numbered through all actions, so
the order of painting is kept although cells are stored by colour and mode. -/

namespace CrossStitch

/-- A pattern in the making. -/
structure Builder where
  /-- In order of their first stroke. -/
  entries : Array Entry
  /-- The position of each strand's entry. -/
  index : Std.ExtTreeMap Strand Nat
  usage : Std.ExtTreeMap String Usage
  /-- The largest coordinate a symbol has had, or -1. -/
  reach : Int
  /-- The number of strokes made. -/
  strokes : Nat

/-- Where a symbol lies once its drawing has been moved, counted from 0. -/
structure Place where
  x : Int
  y : Int
  deriving DecidableEq, Repr

/-- The offset is added without any bound on the result. -/
def Symbol.place (symbol : Symbol) (offset : Offset) : Place :=
  ⟨symbol.column + offset.x.toInt, symbol.row + offset.y.toInt⟩

/-- The cell of a place: one further right and down, in 32 bits. -/
def Place.cell (place : Place) : Cell :=
  ⟨Int32.ofInt (place.x + 1), Int32.ofInt (place.y + 1)⟩

namespace Builder

def start : Builder := ⟨#[], ∅, ∅, -1, 0⟩

/-- Takes a place into the extent of the pattern. -/
def extend (builder : Builder) (place : Place) : Builder :=
  { builder with reach := max (max builder.reach place.x) place.y }

/-- The builder with an entry for the strand, and that entry's position. -/
def locate (builder : Builder) (strand : Strand) : Builder × Nat :=
  match builder.index[strand]? with
  | some position => (builder, position)
  | none =>
    let position := builder.entries.size
    ({ builder with
      entries := builder.entries.push (Entry.blank strand)
      index := builder.index.insert strand position }, position)

/-- Notes a use of a colour. The latest spelling becomes the label; the count goes
up only for a cell that its entry did not have yet. -/
def noteUsage (usage : Std.ExtTreeMap String Usage) (dye : PaletteEntry) (fresh : Bool) :
    Std.ExtTreeMap String Usage :=
  let before := (usage[dye.resolved]?.map Usage.count).getD 0
  usage.insert dye.resolved ⟨dye.raw, if fresh then before + 1 else before⟩

/-- Makes one stroke. -/
def stroke (builder : Builder) (mode : StitchMode) (dye : PaletteEntry) (cell : Cell) :
    Builder :=
  let (builder, position) := builder.locate ⟨dye.resolved, mode⟩
  let fresh := builder.entries[position]?.all fun entry => !entry.contains cell
  let number := builder.strokes + 1
  { builder with
    entries := builder.entries.modify position fun entry => entry.paint cell number
    usage := noteUsage builder.usage dye fresh
    strokes := number }

/-- Paints symbols in order, up to the first that the palette does not know. That
symbol's place has by then been taken into the extent. -/
def paint (palette : Palette) (mode : StitchMode) (offset : Offset) (builder : Builder) :
    List Symbol → Builder × Except ChartFault Unit
  | [] => (builder, .ok ())
  | symbol :: rest =>
    let place := symbol.place offset
    let builder := builder.extend place
    match palette[symbol.char]? with
    | none => (builder, .error .symbolUnknown)
    | some dye =>
      if dye.resolved = noColour then paint palette mode offset builder rest
      else paint palette mode offset (builder.stroke mode dye place.cell) rest

/-- Paints an action. A fault is traced to the action's rows. -/
def add (builder : Builder) (action : Action) : Builder × Except Fault Unit :=
  match action.mode with
  | none => (builder, .error (.chart .invalidStitchMode action.rows))
  | some mode =>
    match paint action.palette mode action.offset builder action.symbols with
    | (next, .ok ()) => (next, .ok ())
    | (next, .error kind) => (next, .error (.chart kind action.rows))

/-- The pattern painted so far. -/
def build (builder : Builder) : Except Fault Pattern :=
  (Pattern.sizeOf? (builder.reach + 1)).map fun size =>
    ⟨size, builder.entries.toList, builder.usage⟩

/-- Paints actions in order up to the first at fault. -/
def addAll (builder : Builder) : List Action → Except Fault Builder
  | [] => .ok builder
  | action :: rest =>
    match builder.add action with
    | (_, .error fault) => .error fault
    | (next, .ok ()) => addAll next rest

end Builder

/-- The pattern that a list of actions paints. -/
def patternOfActions (actions : List Action) : Except Fault Pattern := do
  (← Builder.start.addAll actions).build

end CrossStitch
