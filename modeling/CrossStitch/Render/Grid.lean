import CrossStitch.Pattern.Basic

/-! The grid a pattern is drawn from: for every position the colour last stitched
in each mode. A grid is a square with its corner at the margin, position (0, 0). -/

namespace CrossStitch

/-- The colours at one position, one slot for each mode. -/
structure Stitches where
  cross : Option String
  top : Option String
  bottom : Option String
  left : Option String
  right : Option String
  horizontal : Option String
  vertical : Option String
  backslash : Option String
  slash : Option String
  deriving DecidableEq, Repr

namespace Stitches

def blank : Stitches := ⟨none, none, none, none, none, none, none, none, none⟩

/-- The colour in the slot of a mode. -/
def slot (stitches : Stitches) : StitchMode → Option String
  | .crossStitch => stitches.cross
  | .topEdge => stitches.top
  | .bottomEdge => stitches.bottom
  | .leftEdge => stitches.left
  | .rightEdge => stitches.right
  | .horizontalLine => stitches.horizontal
  | .verticalLine => stitches.vertical
  | .diagonalBackslash => stitches.backslash
  | .diagonalSlash => stitches.slash

/-- The stitches with a colour put into the slot of its mode. -/
def put (stitches : Stitches) (strand : Strand) : Stitches :=
  match strand.mode with
  | .crossStitch => { stitches with cross := some strand.colour }
  | .topEdge => { stitches with top := some strand.colour }
  | .bottomEdge => { stitches with bottom := some strand.colour }
  | .leftEdge => { stitches with left := some strand.colour }
  | .rightEdge => { stitches with right := some strand.colour }
  | .horizontalLine => { stitches with horizontal := some strand.colour }
  | .verticalLine => { stitches with vertical := some strand.colour }
  | .diagonalBackslash => { stitches with backslash := some strand.colour }
  | .diagonalSlash => { stitches with slash := some strand.colour }

theorem slot_put (stitches : Stitches) (strand : Strand) (mode : StitchMode) :
    (stitches.put strand).slot mode =
      if strand.mode = mode then some strand.colour else stitches.slot mode := by
  obtain ⟨colour, m⟩ := strand
  cases m <;> cases mode <;> rfl

def hasStraightLine (stitches : Stitches) : Bool :=
  stitches.horizontal.isSome || stitches.vertical.isSome

def hasDiagonal (stitches : Stitches) : Bool :=
  stitches.backslash.isSome || stitches.slash.isSome

/-- Lines that cannot share a cell: a diagonal bears no other line beside it. -/
def conflicts (stitches : Stitches) : Bool :=
  stitches.hasDiagonal &&
    (stitches.hasStraightLine || (stitches.backslash.isSome && stitches.slash.isSome))

end Stitches

/-- One stroke of a pattern: its number, and what it puts where. -/
structure Stroke where
  number : Nat
  cell : Cell
  strand : Strand
  deriving DecidableEq, Repr

/-- The latest strokes on the cells of all entries, in the order they were made. -/
def Pattern.strokes (pattern : Pattern) : List Stroke :=
  (pattern.entries.flatMap fun entry =>
    entry.strokes.toList.map fun (cell, number) => ⟨number, cell, entry.strand⟩).mergeSort
      fun a b => a.number ≤ b.number

/-- The most positions a grid may have. -/
def maxGridCells : Nat := 4194304

/-- The positions of a square, stored row after row. -/
structure Grid where
  extent : Nat
  cells : Array Stitches

namespace Grid

def blank (extent : Nat) : Grid :=
  ⟨extent, Array.replicate (extent * extent) Stitches.blank⟩

/-- Where a cell is stored; cells beyond the square are not. -/
def index? (extent : Nat) (cell : Cell) : Option Nat :=
  let x := cell.x.toInt
  let y := cell.y.toInt
  if 0 ≤ x ∧ x < extent ∧ 0 ≤ y ∧ y < extent then some (y.toNat * extent + x.toNat) else none

/-- Stitches one stroke over what is already there. -/
def stitch (grid : Grid) (stroke : Stroke) : Grid :=
  match index? grid.extent stroke.cell with
  | none => grid
  | some i => { grid with cells := grid.cells.modify i fun s => s.put stroke.strand }

/-- The grid of a pattern up to a given extent. -/
def ofPattern (pattern : Pattern) (extent : Nat) : Except Fault Grid :=
  if extent * extent ≤ maxGridCells then
    .ok (pattern.strokes.foldl stitch (blank extent))
  else .error (.bare (.chartTooLarge pattern.size))

/-- The stitches at a position; there are none beyond the square. -/
def look (grid : Grid) (x y : Nat) : Stitches :=
  if x < grid.extent ∧ y < grid.extent then
    grid.cells.getD (y * grid.extent + x) Stitches.blank
  else Stitches.blank

/-! ### Edges

An edge lies between two positions and may be stitched from either of them. -/

/-- The stitches one row up. -/
def above (grid : Grid) (x : Nat) : Nat → Stitches
  | 0 => Stitches.blank
  | y + 1 => grid.look x y

/-- The stitches one column to the left. -/
def before (grid : Grid) : Nat → Nat → Stitches
  | 0, _ => Stitches.blank
  | x + 1, y => grid.look x y

/-- Whether the edge on the upper side of a position is stitched. -/
def topEdge (grid : Grid) (x y : Nat) : Bool :=
  (grid.look x y).top.isSome || (grid.above x y).bottom.isSome

def bottomEdge (grid : Grid) (x y : Nat) : Bool :=
  (grid.look x y).bottom.isSome || (grid.look x (y + 1)).top.isSome

def leftEdge (grid : Grid) (x y : Nat) : Bool :=
  (grid.look x y).left.isSome || (grid.before x y).right.isSome

def rightEdge (grid : Grid) (x y : Nat) : Bool :=
  (grid.look x y).right.isSome || (grid.look (x + 1) y).left.isSome

/-! ### Positions -/

/-- The first stitches, row by row from the top, that meet a condition. -/
def find? (grid : Grid) (p : Stitches → Bool) : Option Stitches :=
  (List.range grid.extent).findSome? fun y =>
    (List.range grid.extent).findSome? fun x =>
      let stitches := grid.look x y
      if p stitches then some stitches else none

/-- What `f` finds at the positions, row by row from the top. -/
def collect {α : Type} (grid : Grid) (f : Stitches → Option α) : List α :=
  (List.range grid.extent).flatMap fun y =>
    (List.range grid.extent).filterMap fun x => f (grid.look x y)

end Grid

end CrossStitch
