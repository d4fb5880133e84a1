import Std.Data.ExtTreeMap
import CrossStitch.StitchMode

/-! Actions. An action paints a drawing made of characters: the palette gives the
characters colours, the mode tells how they are stitched and the offset where the
drawing's top left corner lies. -/

namespace CrossStitch

/-- One assignment of a palette. -/
structure PaletteEntry where
  symbol : Char
  /-- The colour as the chart spells it. -/
  raw : String
  /-- The colour the spelling stands for. -/
  resolved : String
  deriving DecidableEq, Repr

/-- The assignments of a palette by symbol. -/
abbrev Palette := Std.ExtTreeMap Char PaletteEntry

/-- How far a drawing is moved to the right and down. -/
structure Offset where
  x : Int32
  y : Int32
  deriving DecidableEq, Repr

structure Action where
  palette : Palette
  mode : Option StitchMode
  rows : List String
  offset : Offset

/-- A character of a drawing with its column and row, both counted from 0. -/
structure Symbol where
  column : Nat
  row : Nat
  char : Char
  deriving DecidableEq, Repr

namespace Action

/-- The action of which nothing has been said yet. -/
def blank : Action := ⟨∅, none, [], ⟨0, 0⟩⟩

def hasPattern (action : Action) : Bool :=
  !action.rows.isEmpty

/-- Every character of the drawing, row by row and from left to right. -/
def symbols (action : Action) : List Symbol :=
  action.rows.zipIdx.flatMap fun (line, row) =>
    line.toList.zipIdx.map fun (char, column) => ⟨column, row, char⟩

end Action

end CrossStitch
