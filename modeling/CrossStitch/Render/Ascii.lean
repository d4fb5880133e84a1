import CrossStitch.Render.Grid
import CrossStitch.Render.Option
import CrossStitch.Render.Warning
import CrossStitch.Text.Blank
import CrossStitch.Text.Line

/-! The chart in plain text. A row of the grid becomes two lines, one for the edges
above its positions and one for the edges to their left and what is stitched in
them. Every colour of a cross stitch is drawn with a symbol of its own, which the
legend under the chart explains. -/

namespace CrossStitch.Ascii

/-- The symbols of colours, in the order they are given out. -/
def alphabet : List Char :=
  "abcdefghijklmnopqrstuvwxyzABCDEFGHIJKLMNOPQRSTUVWXYZ0123456789".toList

/-- Drawn for every colour that no symbol is left for. -/
def overflowSymbol : Char := '?'

/-- Drawn between the columns of a border line, unless the options leave it out. -/
def delimiter : Char := '.'

/-- How many rows and columns of the grid lie beyond the pattern's size: the margin
before it, and room behind it for the edges of the last row and column. -/
def surplus : Nat := 3

/-- The colours of cross stitches, in the order of their first position. -/
def crossColours (grid : Grid) : List String :=
  (grid.collect Stitches.cross).eraseDups

/-- The symbol of a colour, by its place among the colours. -/
def symbolOf (colours : List String) (colour : String) : Char :=
  alphabet.getD (colours.idxOf colour) overflowSymbol

/-- The character for the lines in a cell. -/
def lineGlyph (stitches : Stitches) : Char :=
  if stitches.backslash.isSome then '\\'
  else if stitches.slash.isSome then '/'
  else match stitches.horizontal, stitches.vertical with
    | some _, some _ => '+'
    | some _, none => '-'
    | none, some _ => '|'
    | none, none => ' '

/-- The character drawn in a cell; a cross stitch hides lines. -/
def glyph (colours : List String) (stitches : Stitches) : Char :=
  match stitches.cross with
  | some colour => symbolOf colours colour
  | none => lineGlyph stitches

/-! ### Lines of the chart -/

inductive ChartLine
  /-- The line over the chart. -/
  | margin
  /-- The edges above the positions of a row. -/
  | border (y : Nat)
  /-- The edges to the left of the positions of a row, and their stitches. -/
  | content (y : Nat)
  deriving DecidableEq, Repr

/-- What the lines are drawn from and with. -/
structure Drawing where
  grid : Grid
  colours : List String
  separator : Char

namespace Drawing

/-- The character for the edge above a position. -/
def topMark (drawing : Drawing) (x y : Nat) : Char :=
  if drawing.grid.topEdge x y then '-' else ' '

/-- The character for the edge to the left of a position. -/
def leftMark (drawing : Drawing) (x y : Nat) : Char :=
  if drawing.grid.leftEdge x y then '|' else ' '

def cellMark (drawing : Drawing) (x y : Nat) : Char :=
  glyph drawing.colours (drawing.grid.look x y)

def text (drawing : Drawing) : ChartLine → String
  | .margin => ""
  | .border y => String.ofList <| (List.range drawing.grid.extent).flatMap fun x =>
      [drawing.separator, drawing.topMark x y]
  | .content y => String.ofList <| (List.range drawing.grid.extent).flatMap fun x =>
      [drawing.leftMark x y, drawing.cellMark x y]

/-- Whether a line has no other characters than delimiters and blanks. -/
def isBlank (drawing : Drawing) (line : ChartLine) : Bool :=
  (drawing.text line).toList.all fun c => c == delimiter || Text.isBlank c

/-- The line over the chart and the lines of all rows. -/
def lines (drawing : Drawing) : List ChartLine :=
  .margin :: (List.range drawing.grid.extent).flatMap fun y => [.border y, .content y]

/-- The lines up to the last one that is not blank, and one more under it. -/
def shownLines (drawing : Drawing) : List ChartLine :=
  let blankEnd := drawing.lines.reverse.takeWhile drawing.isBlank
  let marked := (drawing.lines.reverse.dropWhile drawing.isBlank).reverse
  if marked.isEmpty then [] else marked ++ [blankEnd.getLast?.getD .margin]

end Drawing

/-! ### Legend and warnings -/

/-- The legend's line for a colour. -/
def legendLine (pattern : Pattern) (colours : List String) (colour : String) : String :=
  let usage := (pattern.usage? colour).getD ⟨colour, 0⟩
  "color: " ++ String.singleton (symbolOf colours colour) ++ " => " ++ usage.label ++
    " (count: " ++ toString usage.count ++ ")"

def legend (pattern : Pattern) (colours : List String) : List String :=
  (colours.map (legendLine pattern colours)).mergeSort fun a b => a ≤ b

def stitchAndLineWarning : String := "cannot have stitch+line in ASCII pattern"

def outOfSymbolsWarning : String := "too many colors for ASCII symbols"

/-- A cross stitch over a line, which the chart cannot show. -/
def hidesLine (stitches : Stitches) : Bool :=
  stitches.cross.isSome && (stitches.hasStraightLine || stitches.hasDiagonal)

/-- One warning for every hidden line and for every colour without a symbol. -/
def warnings (grid : Grid) (colours : List String) : Warnings :=
  ⟨(grid.collect fun s => if hidesLine s then some stitchAndLineWarning else none) ++
    (colours.drop alphabet.length).map fun _ => outOfSymbolsWarning⟩

def warningLine (warning : String × Nat) : String :=
  "WARN: " ++ warning.1 ++ " [" ++ toString warning.2 ++ "]"

/-! ### The whole text -/

def separatorOf (options : RenderOptions) : Char :=
  if options.asciiNoDelimiter then ' ' else delimiter

/-- The chart of a pattern with its legend and warnings. Lines that cannot share a
cell are a fault. -/
def render (pattern : Pattern) (options : RenderOptions) : Except Fault String := do
  let grid ← Grid.ofPattern pattern (pattern.size + surplus)
  if (grid.find? Stitches.conflicts).isSome then
    throw (.bare .incompatibleLineCombination)
  let colours := crossColours grid
  let drawing : Drawing := ⟨grid, colours, separatorOf options⟩
  return Text.unlines
    (drawing.shownLines.map drawing.text ++ ["", "---"] ++ legend pattern colours ++
      (warnings grid colours).summary.map warningLine)

end CrossStitch.Ascii
