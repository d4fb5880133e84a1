import CrossStitch.Proofs.Action.Origin
import CrossStitch.Proofs.Action.Source
import CrossStitch.Proofs.Block.Run
import CrossStitch.Proofs.Pattern.Size

/-! The columns of a drawing. The reader trims the lines of every block, and the lines of a drawing
with them, so a blank at the start of a row would be lost and the row moved to the left. There is
no such blank. A palette line is trimmed as well, and its symbol is its first character. So no
palette has a blank for a symbol, and a drawing with a blank in it cannot be painted. What is
painted lies where it stands in the source, counted from the first character of the line that is
not blank. -/

namespace CrossStitch

/-! ### Symbols -/

/-- The symbols are the characters of the rows, each with its place. -/
theorem Action.mem_symbols_iff {action : Action} {symbol : Symbol} :
    symbol ∈ action.symbols ↔
      ∃ row, action.rows[symbol.row]? = some row ∧
        row.toList[symbol.column]? = some symbol.char := by
  obtain ⟨column, number, char⟩ := symbol
  simp only [Action.symbols, List.mem_flatMap, List.mem_map, Prod.exists,
    List.mem_zipIdx_iff_getElem?]
  constructor
  · rintro ⟨row, _, hrow, _, _, hchar, ⟨⟩⟩
    exact ⟨row, hrow, hchar⟩
  · rintro ⟨row, hrow, hchar⟩
    exact ⟨row, number, hrow, char, column, hchar, rfl⟩

/-- All characters of a drawing that can be painted are symbols of the palette. -/
theorem Action.Paintable.mem_palette {action : Action} (h : action.Paintable) {row : String}
    (hrow : row ∈ action.rows) {c : Char} (hc : c ∈ row.toList) : c ∈ action.palette := by
  obtain ⟨number, hnumber⟩ := List.mem_iff_getElem?.mp hrow
  obtain ⟨column, hcolumn⟩ := List.mem_iff_getElem?.mp hc
  exact h.known ⟨column, number, c⟩ (Action.mem_symbols_iff.mpr ⟨row, hnumber, hcolumn⟩)

/-- If trimming leaves no blank in any row, the symbols are the characters that are not blank, and
each keeps its distance from the first of its text. -/
theorem Action.mem_symbols_iff_of_texts {action : Action} {texts : List (List Char)}
    (hrows : action.rows = texts.map fun text => String.ofList (Text.trim text))
    (hvisible : ∀ row ∈ action.rows, ∀ c ∈ row.toList, Text.isBlank c = false) {symbol : Symbol} :
    symbol ∈ action.symbols ↔
      ∃ text, texts[symbol.row]? = some text ∧
        text[Text.indent text + symbol.column]? = some symbol.char ∧
        Text.isBlank symbol.char = false := by
  rw [Action.mem_symbols_iff, hrows, List.getElem?_map]
  simp only [Option.map_eq_some_iff, exists_exists_and_eq_and, String.toList_ofList]
  refine exists_congr fun text => and_congr_right fun htext => Text.getElem?_trim_iff ?_
  have hrow : String.ofList (Text.trim text) ∈ action.rows := by
    rw [hrows]
    exact List.mem_map_of_mem (List.mem_of_getElem? htext)
  simpa using hvisible _ hrow

/-! ### Palettes -/

/-- A palette that is read has no blank for a symbol. -/
theorem isBlank_of_mem_palette {includes : Includes} {colours : ColourTable} {source : String}
    {blocks : List Block} (hread : readAll includes (sourceLines 0 source) = .ok blocks)
    {block : Block} (hblock : block ∈ blocks) {palette : Palette}
    (h : (Request.palette palette).WrittenAs colours block.lines) {symbol : Char}
    (hs : symbol ∈ palette) : Text.isBlank symbol = false := by
  have hprintable := printable_of_readBlocks includes _ (unbroken_sourceLines 0 source)
  rw [readAll_eq_ok_iff.mp hread] at hprintable
  obtain ⟨line, hline, hfirst⟩ := exists_line_of_mem_palette h hs
  exact ((hprintable block hblock).lines line hline).trimmed.1 symbol hfirst

/-! ### Charts -/

namespace ChartContext

/-- The line stands in the chart or in a file that can be read. -/
def Holds (context : ChartContext) (source : String) (line : SourceLine) : Prop :=
  ∃ text, (text = source ∨ ∃ path, context.includes.files path = .ok text) ∧
    line.text ∈ Text.lines text

/-- The lines are those of the block that draws the action, and the texts are its body as it stands
in them. -/
structure DrawnIn (context : ChartContext) (source : String) (action : Action)
    (lines : List SourceLine) (texts : List (List Char)) : Prop where
  held : ∀ line ∈ lines, context.Holds source line
  /-- The block is read from the lines after the blocks `before`. -/
  read : ∃ blocks before block followed rest depth,
    readAll context.includes (sourceLines 0 source) = .ok blocks ∧
    action.DrawnBy context.colours blocks before block ∧
    context.includes.Runs (sourceLines 0 source) before followed (lines ++ rest) ∧
    BlockLines lines block.mode texts depth
  rows : action.rows = texts.map fun text => String.ofList (Text.trim text)

variable {context : ChartContext} {source : String}

/-- Nothing but lines of the chart and of its files comes before the reader. -/
theorem holds_of_runs {blocks : List Block} {followed : Nat} {left : List SourceLine}
    (h : context.includes.Runs (sourceLines 0 source) blocks followed left) :
    ∀ line ∈ left, context.Holds source line := by
  refine h.forall_mem (fun depth names lines he line hl => ?_) fun line hl => ?_
  · obtain ⟨name, _, text, htext, hline⟩ := Includes.mem_load (Includes.expand_eq_ok he).2 hl
    obtain ⟨raw, hraw, rfl⟩ := List.mem_map.mp hline
    exact ⟨text, .inr ⟨_, htext⟩, hraw⟩
  · obtain ⟨raw, hraw, rfl⟩ := List.mem_map.mp hl
    exact ⟨source, .inl rfl, hraw⟩

theorem exists_drawnIn {blocks before : List Block} {block : Block} {action : Action}
    (hread : readAll context.includes (sourceLines 0 source) = .ok blocks)
    (h : action.DrawnBy context.colours blocks before block) :
    ∃ lines texts, context.DrawnIn source action lines texts := by
  have hdrawn := h
  obtain ⟨_, hrows, later, sealing, after, _, rfl, _⟩ := h
  have hblocks := congrArg Prod.fst (readAll_eq_ok_iff.mp hread)
  obtain ⟨followed, lines, rest, depth, hrun, texts, hlines, htexts⟩ :=
    context.includes.exists_run_of_readBlocks hblocks
  refine ⟨lines, texts, fun line hl => ?_, ?_, hrows.trans htexts⟩
  · exact holds_of_runs hrun line (List.mem_append_left rest hl)
  · exact ⟨_, before, block, followed, rest, depth, hread, hdrawn, hrun, hlines⟩

end ChartContext

/-- Trimming moves no stitch. In a chart that can be painted no palette has a blank for a symbol,
and there is no blank in any row. The symbols of a drawing are the characters of its texts that are
not blank, and the column of each is its distance from the first of them. The text of a drawing on
one line is the body of its block. -/
theorem trimming_moves_no_stitch {context : ChartContext} {source : String} {pattern : Pattern}
    (h : parsePattern context source = .ok pattern) :
    ∃ actions, parseActions context source = .ok actions ∧ patternOfActions actions = .ok pattern ∧
      ∀ action ∈ actions,
        (∀ symbol ∈ action.palette, Text.isBlank symbol = false) ∧
        (∀ row ∈ action.rows, ∀ c ∈ row.toList, Text.isBlank c = false) ∧
        ∃ lines texts, context.DrawnIn source action lines texts ∧
          ∀ symbol, symbol ∈ action.symbols ↔
            ∃ text, texts[symbol.row]? = some text ∧
              text[Text.indent text + symbol.column]? = some symbol.char ∧
              Text.isBlank symbol.char = false := by
  obtain ⟨actions, hactions, hpattern⟩ := parsePattern_eq_ok_iff.mp h
  obtain ⟨blocks, hread, _, hcommitted, _⟩ := parseActions_eq_ok_iff.mp hactions
  refine ⟨actions, hactions, hpattern, fun action ha => ?_⟩
  obtain ⟨⟨before, block, hdrawn⟩, hpalette⟩ := origin_of_actionsOfBlocks hcommitted ha
  have hpaintable := (exists_patternOfActions_iff.mp ⟨pattern, hpattern⟩).1 action ha
  have hkeys : ∀ symbol ∈ action.palette, Text.isBlank symbol = false := by
    intro symbol hs
    rcases hpalette with hnone | ⟨origin, horigin, hwritten⟩
    · rw [hnone] at hs
      simp at hs
    · exact isBlank_of_mem_palette hread horigin hwritten hs
  -- a blank in a row would be a symbol that the palette does not have
  have hvisible : ∀ row ∈ action.rows, ∀ c ∈ row.toList, Text.isBlank c = false :=
    fun row hrow c hc => hkeys c (hpaintable.mem_palette hrow hc)
  obtain ⟨lines, texts, hin⟩ := ChartContext.exists_drawnIn hread hdrawn
  exact ⟨hkeys, hvisible, lines, texts, hin, fun symbol =>
    Action.mem_symbols_iff_of_texts hin.rows hvisible⟩

/-- A file with a drawing of two rows that are indented differently. -/
def indentedInFile : ChartContext :=
  ⟨.empty, ⟨fun _ => .ok "pattern => \x7b\n\t aa\n     a\n\x7d\n", none, 1⟩⟩

/-- The drawing of the file, and another one on one line. -/
def indentedLines : List String :=
  ["palette => \x7b a => red \x7d", "mode => \x7bxstitch\x7d", "include => \x7bart\x7d",
    "action => \x7bcommit\x7d", "pattern => \x7b   aa\t\x7d", "mode => \x7bxstitch\x7d",
    "action => \x7bcommit\x7d"]

def indentedBlocks : List Block :=
  [⟨"palette", ["a => red"]⟩, ⟨"mode", ["xstitch"]⟩, ⟨"pattern", ["aa", "a"]⟩,
    ⟨"action", ["commit"]⟩, ⟨"pattern", ["aa"]⟩, ⟨"mode", ["xstitch"]⟩, ⟨"action", ["commit"]⟩]

theorem readBlocks_indented :
    readBlocks indentedInFile.includes (sourceLines 0 (Text.unlines indentedLines)) =
      (indentedBlocks, none) := by
  have hlines : Text.lines (Text.unlines indentedLines) = indentedLines := by decide +kernel
  have hpalette : scan (linesAt 0 indentedLines) =
      .found ⟨"palette", ["a => red"]⟩ 0 (linesAt 0 (indentedLines.drop 1)) := by decide
  have hmode : scan (linesAt 0 (indentedLines.drop 1)) =
      .found ⟨"mode", ["xstitch"]⟩ 0 (linesAt 0 (indentedLines.drop 2)) := by decide
  have hinclude : scan (linesAt 0 (indentedLines.drop 2)) =
      .found ⟨"include", ["art"]⟩ 0 (linesAt 0 (indentedLines.drop 3)) := by decide
  have hexpand : indentedInFile.includes.expand 0 ["art"] =
      .ok (linesAt 1 ["pattern => \x7b", "\t aa", "     a", "\x7d"]) := by cbv
  have hlong : scan (linesAt 1 ["pattern => \x7b", "\t aa", "     a", "\x7d"]) =
      .found ⟨"pattern", ["aa", "a"]⟩ 1 [] := by decide
  have hcommit : scan (linesAt 0 (indentedLines.drop 3)) =
      .found ⟨"action", ["commit"]⟩ 0 (linesAt 0 (indentedLines.drop 4)) := by decide
  have hshort : scan (linesAt 0 (indentedLines.drop 4)) =
      .found ⟨"pattern", ["aa"]⟩ 0 (linesAt 0 (indentedLines.drop 5)) := by decide
  have hagain : scan (linesAt 0 (indentedLines.drop 5)) =
      .found ⟨"mode", ["xstitch"]⟩ 0 (linesAt 0 (indentedLines.drop 6)) := by decide
  have hlast : scan (linesAt 0 (indentedLines.drop 6)) = .found ⟨"action", ["commit"]⟩ 0 [] := by
    decide
  rw [sourceLines_eq_linesAt, hlines, readBlocks_of_found hpalette (by decide),
    readBlocks_of_found hmode (by decide), readBlocks_of_include hinclude rfl, hexpand]
  simp only [readBlocks_of_found (scan_append_of_found hlong _) (by decide), List.nil_append,
    readBlocks_of_found hcommit (by decide), readBlocks_of_found hshort (by decide),
    readBlocks_of_found hagain (by decide), readBlocks_of_found hlast (by decide),
    readBlocks_of_exhausted scan_nil]
  rfl

/-- Both drawings lie at the left edge, whatever their indents. -/
theorem trimming_of_indented :
    ∃ pattern actions, parsePattern indentedInFile (Text.unlines indentedLines) = .ok pattern ∧
      parseActions indentedInFile (Text.unlines indentedLines) = .ok actions ∧
      actions.map Action.rows = [["aa", "a"], ["aa"]] ∧
      ∀ action ∈ actions, ∃ lines texts,
        indentedInFile.DrawnIn (Text.unlines indentedLines) action lines texts ∧
          ∀ symbol ∈ action.symbols, ∃ text, texts[symbol.row]? = some text ∧
            text[Text.indent text + symbol.column]? = some symbol.char := by
  have hread := readAll_eq_ok_iff.mpr readBlocks_indented
  have hrows : (committedActions .empty indentedBlocks).map (List.map Action.rows) =
      .ok [["aa", "a"], ["aa"]] := by decide +kernel
  have hsize : (committedActions .empty indentedBlocks >>= patternOfActions).map Pattern.size =
      .ok 2 := by decide +kernel
  obtain ⟨committed, hcommitted, hdrawings⟩ := map_eq_ok_iff.mp hrows
  obtain ⟨pattern, hpattern, _⟩ := map_eq_ok_iff.mp hsize
  have hparse : parsePattern indentedInFile (Text.unlines indentedLines) = .ok pattern := by
    rw [parsePattern_eq_bind, parseActions_eq_bind, hread]
    exact hpattern
  obtain ⟨actions, hactions, _, hmoved⟩ := trimming_moves_no_stitch hparse
  have hsame := hactions
  rw [parseActions_eq_bind, hread] at hsame
  cases hcommitted.symm.trans hsame
  refine ⟨pattern, committed, hparse, hactions, hdrawings, fun action ha => ?_⟩
  obtain ⟨_, _, lines, texts, hin, hsymbols⟩ := hmoved action ha
  refine ⟨lines, texts, hin, fun symbol hs => ?_⟩
  obtain ⟨text, htext, hchar, _⟩ := (hsymbols symbol).mp hs
  exact ⟨text, htext, hchar⟩

end CrossStitch
