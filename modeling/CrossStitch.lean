import CrossStitch.Main
import CrossStitch.Proofs.Action.Printing
import CrossStitch.Proofs.Action.Segment
import CrossStitch.Proofs.Block.Printable
import CrossStitch.Proofs.Render.Canvas
import CrossStitch.Proofs.Block.Likeness
import CrossStitch.Proofs.Block.Pasting
import CrossStitch.Proofs.Block.Passes
import CrossStitch.Proofs.Pattern.Bookkeeping
import CrossStitch.Proofs.Pattern.Placement
import CrossStitch.Proofs.Render.Rejection
import CrossStitch.Proofs.Render.SharedEdge
import CrossStitch.Proofs.Render.Agreement
import CrossStitch.Proofs.Render.Legend
import CrossStitch.Proofs.Render.Label
import CrossStitch.Proofs.Render.Margin
import CrossStitch.Proofs.Pattern.Recolouring
import CrossStitch.Proofs.Render.Tags
import CrossStitch.Proofs.Block.Layout
import CrossStitch.Proofs.Chart.Layout
import CrossStitch.Proofs.Chart.IncludeLimit
import CrossStitch.Proofs.Files.Tree
import CrossStitch.Proofs.Command.Delivery
import CrossStitch.Proofs.Chart.Resolution
import CrossStitch.Proofs.Action.Resolver
import CrossStitch.Proofs.Render.Delimiter
import CrossStitch.Proofs.Render.CommitOrder
import CrossStitch.Proofs.Pattern.GivenUp
import CrossStitch.Proofs.Pattern.StrokeOrder
import CrossStitch.Proofs.Render.Repetition
import CrossStitch.Proofs.Action.Completeness
import CrossStitch.Proofs.Block.Grammar
import CrossStitch.Proofs.Block.Run
import CrossStitch.Proofs.Block.Calls
import CrossStitch.Proofs.Block.Tracing
import CrossStitch.Proofs.Action.Origin
import CrossStitch.Proofs.Block.Nesting
import CrossStitch.Proofs.Chart.Columns
import CrossStitch.Proofs.Action.Assignment
import CrossStitch.Proofs.Action.OffsetLine
import CrossStitch.Proofs.Render.CellOrder
import CrossStitch.Proofs.Render.HiddenLine
import CrossStitch.Proofs.Render.CellScan
