/-! Blocks, the units of chart source. A block has a mode, the word before its
opening mark, and the lines of its body, trimmed and without blank lines and
comments. Source lines carry how many includes deep they were read. -/

namespace CrossStitch

structure Block where
  mode : String
  lines : List String
  deriving DecidableEq, Repr

/-- Whether the body is exactly the given line. -/
def Block.isSingle (block : Block) (line : String) : Bool :=
  block.lines == [line]

/-- The mode of the blocks that stand for the contents of the files they name. -/
def includeMode : String := "include"

/-- A line of source as it was read, untrimmed. -/
structure SourceLine where
  text : String
  /-- How many includes lead from the chart to the line's file. -/
  depth : Nat
  deriving DecidableEq, Repr

end CrossStitch
