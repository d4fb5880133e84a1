import CrossStitch.Render.Grid
import CrossStitch.Render.Markup

/-! The chart as a page. The page is a square of cells, row by row; row 0 and column
0 hold the numbers of the columns and rows. Stitches become the style of a cell, and
lines become its content. -/

namespace CrossStitch.Html

structure PageCell where
  /-- Column and row, padded with zeros. -/
  id : String
  /-- A number of the margin, or the lines of the cell as markup. -/
  value : String
  style : String
  deriving DecidableEq, Repr

structure PageChart where
  /-- Cells in a row, margin included. -/
  size : Nat
  /-- Row by row. -/
  cells : List PageCell
  legend : List String
  deriving DecidableEq, Repr

/-! ### Cells -/

/-- A number with zeros in front to fill the width. -/
def padded (width n : Nat) : String :=
  let digits := toString n
  String.ofList (List.replicate (width - digits.length) '0') ++ digits

/-- The width of the numbers in the ids of a chart's cells. -/
def idWidth (size : Nat) : Nat :=
  (toString size).length + 2

def cellId (width column row : Nat) : String :=
  padded width column ++ "x" ++ padded width row

/-- What the margin shows; the corner shows nothing. -/
def marginLabel : (column row : Nat) → String
  | 0, 0 => ""
  | column, 0 => toString column
  | 0, row => toString row
  | _, _ => ""

/-- A line character in its colour. -/
def colouredLine (line colour : String) : String :=
  "<div style=\"color: " ++ colour ++ "\">" ++ line ++ "</div>"

/-- The lines of a cell, or `none` if there are none. -/
def lineMarkup? (stitches : Stitches) : Option String :=
  match stitches.horizontal, stitches.vertical with
  | some h, some v => some (colouredLine "-" h ++ colouredLine "|" v ++ colouredLine "-" h)
  | some h, none => some (colouredLine "---" h)
  | none, some v => some (colouredLine "|" v)
  | none, none =>
    match stitches.backslash, stitches.slash with
    | some colour, _ => some (colouredLine "\\" colour)
    | none, some colour => some (colouredLine "/" colour)
    | none, none => none

def edgeStyle (side : String) : Option String → List String
  | none => []
  | some colour =>
    ["border-" ++ side ++ "-style: solid; border-" ++ side ++ "-color: " ++ colour]

/-- The style of a cell, in parts. -/
def styleParts (stitches : Stitches) : List String :=
  (if stitches.hasStraightLine || stitches.hasDiagonal then ["font-size: 6pt"] else []) ++
    edgeStyle "top" stitches.top ++ edgeStyle "bottom" stitches.bottom ++
    edgeStyle "left" stitches.left ++ edgeStyle "right" stitches.right ++
    (stitches.cross.toList.map fun colour => "background-color: " ++ colour)

def pageCell (grid : Grid) (width column row : Nat) : PageCell :=
  let stitches := grid.look column row
  { id := cellId width column row
    value := (lineMarkup? stitches).getD (marginLabel column row)
    style := String.intercalate "; " (styleParts stitches) }

/-! ### The chart -/

/-- Why lines cannot share a cell. -/
def conflictKind (stitches : Stitches) : ChartFault :=
  if stitches.hasStraightLine then .incompatibleLineCombination else .crossStitchLineConflict

def legendLine (usage : Usage) : String :=
  "color: " ++ usage.label ++ " (count " ++ toString usage.count ++ ")"

/-- The page chart of a pattern. Lines that cannot share a cell are a fault, which
is that of the first such cell. -/
def chart (pattern : Pattern) : Except Fault PageChart := do
  let size := pattern.size + 1
  let grid ← Grid.ofPattern pattern size
  if let some stitches := grid.find? Stitches.conflicts then
    throw (.bare (conflictKind stitches))
  let width := idWidth pattern.size
  return {
    size
    cells := (List.range size).flatMap fun row =>
      (List.range size).map fun column => pageCell grid width column row
    legend := (pattern.usage.values.map legendLine).mergeSort fun a b => a ≤ b }

/-! ### The page -/

def pageHead : String :=
  "<!DOCTYPE html>\n<html>\n<head>\n<meta charset=\"utf-8\">\n<title>stitch chart</title>\n" ++
  "<style>\n  .chart \x7b\n    display: grid;\n    grid-template-columns: repeat("

def pageStyle : String :=
  ", 1.5em);\n    grid-auto-rows: 1.5em;\n    font-family: monospace;\n  \x7d\n" ++
  "  .chart div.cell \x7b\n    border: 1px dotted #c0c0c0;\n    text-align: center;\n" ++
  "    overflow: hidden;\n  \x7d\n" ++
  "  .legend \x7b\n    font-family: monospace;\n    margin-top: 1em;\n  \x7d\n" ++
  "</style>\n</head>\n<body>\n<div class=\"chart\">"

def cellMarkup (cell : PageCell) : List Markup :=
  [.fixed "\n  <div class=\"cell\" id=\"", .shielded cell.id, .fixed "\" style=\"",
    .shielded cell.style, .fixed "\">", .trusted cell.value, .fixed "</div>"]

def legendMarkup (line : String) : List Markup :=
  [.fixed "\n  <li>", .shielded line, .fixed "</li>"]

/-- The page in pieces. -/
def page (chart : PageChart) : List Markup :=
  [.fixed pageHead, .shielded (toString chart.size), .fixed pageStyle] ++
    chart.cells.flatMap cellMarkup ++
    [.fixed "\n</div>\n<ul class=\"legend\">"] ++
    chart.legend.flatMap legendMarkup ++
    [.fixed "\n</ul>\n</body>\n</html>"]

def render (pattern : Pattern) : Except Fault String :=
  (chart pattern).map fun chart => Markup.flatten (page chart)

end CrossStitch.Html
