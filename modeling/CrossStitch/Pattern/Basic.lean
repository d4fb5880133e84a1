import Std.Data.ExtTreeMap
import Std.Data.ExtTreeSet
import CrossStitch.Fault
import CrossStitch.StitchMode

/-! Patterns: what is stitched where, and how much of each colour is used. Cells
are grouped by colour and mode, and each keeps the number of the latest stroke made
on it, so that of two strokes in one place the later can be told. -/

namespace CrossStitch

/-- A position of the chart, counted from 1. Row and column 0 are the margin. -/
structure Cell where
  x : Int32
  y : Int32
  deriving DecidableEq, Repr

namespace Cell

/-- Cells are ordered row by row. -/
instance : Ord Cell := ⟨compareLex (compareOn Cell.y) (compareOn Cell.x)⟩

instance : Std.TransOrd Cell :=
  inferInstanceAs (Std.TransCmp (compareLex (compareOn Cell.y) (compareOn Cell.x)))

instance : Std.LawfulEqOrd Cell where
  eq_of_compare {a b} h := by
    obtain ⟨hy, hx⟩ := compareLex_eq_eq.mp h
    have hy : a.y = b.y := Std.compare_eq_iff_eq.mp hy
    have hx : a.x = b.x := Std.compare_eq_iff_eq.mp hx
    cases a
    cases b
    simp_all

def text (cell : Cell) : String :=
  toString cell.x.toInt ++ "x" ++ toString cell.y.toInt

end Cell

/-- A colour together with a way of stitching it. -/
structure Strand where
  colour : String
  mode : StitchMode
  deriving DecidableEq, Repr

namespace Strand

instance : Ord Strand :=
  ⟨compareLex (compareOn Strand.colour) (compareOn fun s => s.mode.rank)⟩

instance : Std.TransOrd Strand :=
  inferInstanceAs (Std.TransCmp
    (compareLex (compareOn Strand.colour) (compareOn fun s => s.mode.rank)))

instance : Std.LawfulEqOrd Strand where
  eq_of_compare {a b} h := by
    obtain ⟨hc, hm⟩ := compareLex_eq_eq.mp h
    have hc : a.colour = b.colour := Std.compare_eq_iff_eq.mp hc
    have hm : a.mode = b.mode := StitchMode.rank_inj (Std.compare_eq_iff_eq.mp hm)
    cases a
    cases b
    simp_all

end Strand

/-- The cells stitched with one strand. -/
structure Entry where
  strand : Strand
  cellSet : Std.ExtTreeSet Cell
  /-- The number of the latest stroke on each cell. -/
  strokes : Std.ExtTreeMap Cell Nat

namespace Entry

def blank (strand : Strand) : Entry := ⟨strand, ∅, ∅⟩

/-- The cells in order. -/
def cells (entry : Entry) : List Cell :=
  entry.cellSet.toList

def contains (entry : Entry) (cell : Cell) : Bool :=
  entry.cellSet.contains cell

/-- Records a stroke on a cell; an earlier stroke there is forgotten. -/
def paint (entry : Entry) (cell : Cell) (stroke : Nat) : Entry :=
  { entry with
    cellSet := entry.cellSet.insert cell
    strokes := entry.strokes.insert cell stroke }

end Entry

/-- What the legend says of a colour. -/
structure Usage where
  /-- How the chart spelled the colour last. -/
  label : String
  /-- How many cells it covers, counted once for every mode. -/
  count : Nat
  deriving DecidableEq, Repr

structure Pattern where
  /-- The largest coordinate of the drawing on either axis. -/
  size : Nat
  entries : List Entry
  usage : Std.ExtTreeMap String Usage

namespace Pattern

/-- The size a pattern may have; it must be at least 1. -/
def sizeOf? (size : Int) : Except Fault Nat :=
  if size < 1 then .error (.bare .invalidSize) else .ok size.toNat

/-- A pattern in which nothing is stitched. -/
def blank (size : Int) : Except Fault Pattern :=
  (sizeOf? size).map fun n => ⟨n, [], ∅⟩

/-- The entry of a colour and a mode. -/
def entry? (pattern : Pattern) (strand : Strand) : Option Entry :=
  pattern.entries.find? fun entry => entry.strand = strand

/-- The legend data of a colour. -/
def usage? (pattern : Pattern) (colour : String) : Option Usage :=
  pattern.usage[colour]?

end Pattern

end CrossStitch
