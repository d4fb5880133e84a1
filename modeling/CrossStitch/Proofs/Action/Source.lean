import CrossStitch.Proofs.Action.Printing

/-! From source to a pattern in two steps. The blocks of a chart are read, and what they commit
is painted. A chart without blocks and one that commits nothing need no step of their own, since
nothing can be painted of them. So of a chart that is written block by block, the blocks alone
tell the pattern. -/

namespace CrossStitch

/-- The pattern that a list of blocks describes. -/
def patternOfBlocks (colours : ColourTable) (blocks : List Block) : Except Fault Pattern := do
  patternOfActions (← actionsOfBlocks colours blocks)

/-- The actions that the blocks of a chart commit; there is at least one. -/
def committedActions (colours : ColourTable) (blocks : List Block) :
    Except Fault (List Action) := do
  if blocks.isEmpty then throw (.bare .noBlocksFound)
  let actions ← actionsOfBlocks colours blocks
  if actions.isEmpty then throw (.bare .noActionsCommitted)
  return actions

/-- A chart commits what its blocks commit. -/
theorem parseActions_eq_bind (context : ChartContext) (source : String) :
    parseActions context source =
      readAll context.includes (sourceLines 0 source) >>= committedActions context.colours :=
  rfl

theorem parsePattern_eq_bind (context : ChartContext) (source : String) :
    parsePattern context source = parseActions context source >>= patternOfActions :=
  rfl

theorem parseActions_eq_ok_iff {context : ChartContext} {source : String} {actions : List Action} :
    parseActions context source = .ok actions ↔
      ∃ blocks, readAll context.includes (sourceLines 0 source) = .ok blocks ∧ blocks ≠ [] ∧
        actionsOfBlocks context.colours blocks = .ok actions ∧ actions ≠ [] := by
  rw [parseActions, bind_eq_ok_iff]
  refine exists_congr fun blocks => and_congr_right fun _ => ?_
  rw [check_eq_ok_iff, List.isEmpty_eq_false_iff, bind_eq_ok_iff]
  refine and_congr_right fun _ => ?_
  constructor
  · rintro ⟨committed, hcommitted, h⟩
    obtain ⟨hne, ⟨⟩⟩ := check_eq_ok_iff.mp h
    exact ⟨hcommitted, List.isEmpty_eq_false_iff.mp hne⟩
  · rintro ⟨hactions, hne⟩
    exact ⟨actions, hactions, check_eq_ok_iff.mpr ⟨List.isEmpty_eq_false_iff.mpr hne, rfl⟩⟩

theorem parsePattern_eq_ok_iff {context : ChartContext} {source : String} {pattern : Pattern} :
    parsePattern context source = .ok pattern ↔
      ∃ actions, parseActions context source = .ok actions ∧ patternOfActions actions = .ok pattern :=
  bind_eq_ok_iff

/-- Nothing can be painted of no actions. -/
theorem ne_nil_of_patternOfActions {actions : List Action} {pattern : Pattern}
    (h : patternOfActions actions = .ok pattern) : actions ≠ [] := by
  rintro rfl
  cases h

/-- A chart of written blocks describes what the blocks describe. -/
theorem parsePattern_writtenText {context : ChartContext} {printed : List WrittenBlock}
    {pattern : Pattern} :
    parsePattern context (writtenText printed) = .ok pattern ↔
      patternOfBlocks context.colours (printed.map WrittenBlock.block) = .ok pattern := by
  rw [parsePattern_eq_ok_iff, patternOfBlocks, bind_eq_ok_iff]
  simp only [parseActions_eq_ok_iff, readAll_writtenText, Except.ok.injEq, exists_eq_left']
  constructor
  · rintro ⟨actions, ⟨_, hactions, _⟩, hpattern⟩
    exact ⟨actions, hactions, hpattern⟩
  · rintro ⟨actions, hactions, hpattern⟩
    have hne := ne_nil_of_patternOfActions hpattern
    refine ⟨actions, ⟨?_, hactions, hne⟩, hpattern⟩
    rintro hnil
    rw [hnil] at hactions
    cases hactions
    exact hne rfl

/-- A chart is read without any files besides it. -/
def ChartContext.alone (colours : ColourTable) : ChartContext :=
  ⟨colours, ⟨fun _ => .ok "", none, 0⟩⟩

/-- A block over several lines. -/
def BlockKind.write (kind : BlockKind) (lines : List String)
    (h : lines ≠ [] ∧ ∀ line ∈ lines, IsLongLine line) : WrittenBlock where
  block := ⟨kind.word, lines⟩
  form := .long
  printable := printable_of_lines h.1 h.2
  suits := ⟨h.1, fun line hl => ⟨(h.2 line hl).not_comment, (h.2 line hl).not_closing⟩⟩

/-- The blocks that commit one drawing, with the palette there is. -/
def drawingBlocks (mode : StitchMode) (offset : Offset) (rows : List String)
    (h : rows ≠ [] ∧ ∀ row ∈ rows, IsLongLine row) : List WrittenBlock :=
  [BlockKind.mode.write [mode.token] ⟨List.cons_ne_nil _ _,
      List.forall_mem_singleton.mpr (isLongLine_token mode)⟩,
    BlockKind.offset.write [offset.line] ⟨List.cons_ne_nil _ _,
      List.forall_mem_singleton.mpr (isLongLine_offsetLine offset)⟩,
    BlockKind.pattern.write rows h,
    BlockKind.action.write [commitWord] ⟨List.cons_ne_nil _ _,
      List.forall_mem_singleton.mpr isLongLine_commitWord⟩]

theorem isLongLine_crossRow : ["a"] ≠ [] ∧ ∀ row ∈ ["a"], IsLongLine row := by decide

/-- One cross at the origin. -/
def drawnCross : List WrittenBlock :=
  drawingBlocks .crossStitch ⟨0, 0⟩ ["a"] isLongLine_crossRow

/-- A palette, and an include block for all that is drawn with it. -/
def drawnInFileSource : String := "palette => \x7ba => red\x7d\ninclude => \x7bcross\x7d\n"

theorem readBlocks_drawnInFile {includes : Includes} {printed : List WrittenBlock}
    (hfile : includes.files (includes.path "cross") = .ok (writtenText printed))
    (hlimit : 0 < includes.limit) :
    readBlocks includes (sourceLines 0 drawnInFileSource) =
      (⟨"palette", ["a => red"]⟩ :: printed.map WrittenBlock.block, none) := by
  have hpalette : scan (sourceLines 0 drawnInFileSource) =
      .found ⟨"palette", ["a => red"]⟩ 0 (linesAt 0 ["include => \x7bcross\x7d"]) := by decide
  have hinclude : scan (linesAt 0 ["include => \x7bcross\x7d"]) =
      .found ⟨"include", ["cross"]⟩ 0 [] := by decide
  have hexpand : includes.expand 0 ["cross"] =
      .ok (sourceLines 1 (writtenText printed) ++ []) := by
    simp only [Includes.expand, if_pos hlimit, Includes.load, hfile]
  rw [readBlocks_of_found hpalette (by decide), readBlocks_of_include hinclude rfl, hexpand]
  simp only [List.append_nil, sourceLines_writtenText, readBlocks_lines]

end CrossStitch
