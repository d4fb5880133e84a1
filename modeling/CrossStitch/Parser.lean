import CrossStitch.Action.Session
import CrossStitch.Block.Reader
import CrossStitch.Pattern.Builder

/-! From chart source to a pattern: blocks are read, blocks become actions, and
actions are painted. A chart without blocks and a chart that commits nothing are
faults of their own. -/

namespace CrossStitch

/-- What a chart is read with. -/
structure ChartContext where
  colours : ColourTable
  includes : Includes

/-- The actions a chart commits; there is at least one. -/
def parseActions (context : ChartContext) (source : String) : Except Fault (List Action) := do
  let blocks ← readAll context.includes (sourceLines 0 source)
  if blocks.isEmpty then throw (.bare .noBlocksFound)
  let actions ← actionsOfBlocks context.colours blocks
  if actions.isEmpty then throw (.bare .noActionsCommitted)
  return actions

/-- The pattern a chart describes. -/
def parsePattern (context : ChartContext) (source : String) : Except Fault Pattern := do
  patternOfActions (← parseActions context source)

end CrossStitch
