import CrossStitch.Proofs.Action.Origin
import CrossStitch.Proofs.Action.Source
import CrossStitch.Proofs.Block.Printable
import CrossStitch.Proofs.Render.Legend
import Mathlib.Data.Finset.Prod

/-! Lines that a text chart cannot show. Where a cross stitch is over a line, the chart has the
symbol of the stitch and nothing of the line. It says so below the legend: there is one line that
tells at how many positions this is so, unless there are none. No other line that is printed can be
taken for it. Labels are printed as parts of lines, and those that are read from a chart bring in
no lines of their own; a label that is made otherwise may. -/

namespace CrossStitch

/-! ### Positions with a hidden line -/

/-- There is a cross stitch, and a line that it is stitched over. -/
def Stitches.CoversLine (stitches : Stitches) : Prop :=
  stitches.cross.isSome ∧ (stitches.horizontal.isSome ∨ stitches.vertical.isSome ∨
    stitches.backslash.isSome ∨ stitches.slash.isSome)

instance (stitches : Stitches) : Decidable stitches.CoversLine :=
  inferInstanceAs (Decidable (_ ∧ _))

/-- The positions of the grid where a line is hidden. -/
def Grid.hiddenLines (grid : Grid) : Finset (Nat × Nat) :=
  (Finset.range grid.extent ×ˢ Finset.range grid.extent).filter fun p =>
    (grid.look p.1 p.2).CoversLine

theorem Grid.mem_hiddenLines_iff {grid : Grid} {x y : Nat} :
    (x, y) ∈ grid.hiddenLines ↔ (grid.look x y).CoversLine := by
  rw [hiddenLines, Finset.mem_filter, Finset.mem_product, Finset.mem_range, Finset.mem_range]
  refine and_iff_right_of_imp fun h => ?_
  by_contra hout
  rw [look_eq_blank hout] at h
  exact absurd h (by decide)

/-- So it is on the canvas: the pattern has a cross stitch and a line there. -/
theorem Grid.mem_hiddenLines_iff_stitched {pattern : Pattern} (hp : pattern.Made) {extent : Nat}
    {grid : Grid} (hg : Grid.ofPattern pattern extent = .ok grid) (hsize : pattern.size < extent)
    {x y : Nat} :
    (x, y) ∈ grid.hiddenLines ↔ pattern.Stitched x y .crossStitch ∧
      (pattern.Stitched x y .horizontalLine ∨ pattern.Stitched x y .verticalLine ∨
        pattern.Stitched x y .diagonalBackslash ∨ pattern.Stitched x y .diagonalSlash) := by
  simp only [← isSome_slot_iff_of_size_lt hp hg hsize]
  exact mem_hiddenLines_iff

theorem toFinset_positions (extent : Nat) :
    (positions extent).toFinset = Finset.range extent ×ˢ Finset.range extent := by
  ext ⟨x, y⟩
  rw [List.mem_toFinset, mem_positions, Finset.mem_product, Finset.mem_range, Finset.mem_range]

theorem Grid.card_hiddenLines (grid : Grid) : grid.hiddenLines.card =
    (positions grid.extent).countP fun p => (grid.look p.1 p.2).CoversLine := by
  have hlisted : grid.hiddenLines =
      ((positions grid.extent).filter fun p => (grid.look p.1 p.2).CoversLine).toFinset := by
    rw [hiddenLines, ← toFinset_positions]
    ext p
    simp
  rw [hlisted, List.toFinset_card_of_nodup ((nodup_positions _).filter _),
    List.countP_eq_length_filter]

/-! ### Labels -/

/-- Labels in one line each. -/
def Pattern.OneLine (pattern : Pattern) : Prop :=
  ∀ (colour : String) (usage : Usage), pattern.usage? colour = some usage →
    '\n' ∉ usage.label.toList

/-- Labels are cut from the lines of a chart. -/
theorem oneLine_of_parsePattern {context : ChartContext} {source : String} {pattern : Pattern}
    (h : parsePattern context source = .ok pattern) : pattern.OneLine := by
  intro colour usage hu
  obtain ⟨actions, hactions, hpattern⟩ := parsePattern_eq_ok_iff.mp h
  obtain ⟨blocks, hread, _, hblocks, _⟩ := parseActions_eq_ok_iff.mp hactions
  obtain ⟨_, action, ha, symbol, dye, hdye, _, hlabel⟩ := exists_dye_of_usage hpattern hu
  rcases (origin_of_actionsOfBlocks hblocks ha).2 with hempty | ⟨block, hblock, hwritten⟩
  · rw [hempty, Std.ExtTreeMap.getElem?_empty] at hdye
    cases hdye
  obtain ⟨entries, hentries, hdistinct, hpalette⟩ := hwritten
  rw [hpalette, Palette.getElem?_extend_eq_some_iff hdistinct] at hdye
  obtain ⟨line, hl, hline⟩ := exists_left_of_forall₂ hentries hdye.1
  obtain ⟨text, htext, _, hraw⟩ := hline.parts
  have hplain := ((readAll_writtenText_and_printable context.includes).2 _ _ hread block
    hblock).lines line hl
  intro hbreak
  rw [← hlabel, hraw, String.toList_ofList] at hbreak
  have hin : '\n' ∈ text := (Text.trim_isInfix text).subset hbreak
  exact hplain.one_line (by rw [htext]; simp [hin])

namespace Ascii

/-! ### The message -/

/-- The line about so many positions. -/
def hiddenLinesWarning (n : Nat) : String :=
  "WARN: cannot have stitch+line in ASCII pattern [" ++ toString n ++ "]"

theorem hidesLine_iff {stitches : Stitches} :
    hidesLine stitches = true ↔ stitches.CoversLine := by
  simp [hidesLine, Stitches.CoversLine, Stitches.hasStraightLine, Stitches.hasDiagonal, or_assoc]

theorem warningLine_stitchAndLine (n : Nat) :
    warningLine (stitchAndLineWarning, n) = hiddenLinesWarning n := by
  have hmark : "WARN: " ++ stitchAndLineWarning ++ " [" =
      "WARN: cannot have stitch+line in ASCII pattern [" := by decide +kernel
  exact congrArg (· ++ toString n ++ "]") hmark

/-- The message about lines is raised once for each position where one is hidden. -/
theorem count_stitchAndLine (grid : Grid) (colours : List String) :
    (warnings grid colours).messages.count stitchAndLineWarning = grid.hiddenLines.card := by
  have hother : stitchAndLineWarning ∉
      (colours.drop alphabet.length).map fun _ => outOfSymbolsWarning := by
    intro h
    obtain ⟨_, _, hsame⟩ := List.mem_map.mp h
    exact absurd hsame (by decide)
  have hraised : ∀ p : Nat × Nat, ((if hidesLine (grid.look p.1 p.2) then
      some stitchAndLineWarning else none) == some stitchAndLineWarning) =
        decide (grid.look p.1 p.2).CoversLine := by
    intro p
    by_cases h : (grid.look p.1 p.2).CoversLine
    · simp [h, hidesLine_iff.mpr h]
    · simp [h, hidesLine_iff]
  rw [warnings, List.count_append, List.count_eq_zero_of_not_mem hother, Nat.add_zero,
    Grid.collect_eq_filterMap, List.count_filterMap]
  simp only [hraised]
  exact grid.card_hiddenLines.symm

theorem stitchAndLine_mem_iff {grid : Grid} {colours : List String} {n : Nat} :
    (stitchAndLineWarning, n) ∈ (warnings grid colours).summary ↔
      grid.hiddenLines.Nonempty ∧ n = grid.hiddenLines.card := by
  rw [Warnings.mem_summary_iff, count_stitchAndLine, ← List.count_pos_iff, count_stitchAndLine,
    Finset.card_pos]

/-! ### All lines of the text -/

variable {pattern : Pattern} {options : RenderOptions} {grid : Grid}

theorem exists_entryLine (hp : pattern.Made)
    (hg : Grid.ofPattern pattern (pattern.size + surplus) = .ok grid) {line : String}
    (h : line ∈ legend pattern (crossColours grid)) :
    ∃ colour usage, pattern.usage? colour = some usage ∧
      line = entryLine (symbolOf (crossColours grid) colour) usage := by
  obtain ⟨colour, hcolour, rfl⟩ := List.mem_map.mp (List.mem_mergeSort.mp h)
  obtain ⟨usage, hu⟩ := exists_usage_of_met hp hg hcolour
  exact ⟨colour, usage, hu, legendLine_of_usage hu⟩

/-- A line of the chart begins with a delimiter or an edge. -/
theorem head?_text_ne {drawing : Drawing}
    (hs : drawing.separator = ' ' ∨ drawing.separator = delimiter) (line : ChartLine) :
    (drawing.text line).toList.head? ≠ some 'W' := by
  have hfirst {even odd : Nat → Char} (heven : even 0 ≠ 'W') (width : Nat) :
      ((List.range width).flatMap fun x => [even x, odd x]).head? ≠ some 'W' := by
    cases width with
    | zero => simp
    | succ width => simpa [List.range_succ_eq_map] using heven
  cases line with
  | margin => simp [Drawing.text]
  | border y =>
    rw [Drawing.text, String.toList_ofList]
    refine @hfirst (fun _ => drawing.separator) (drawing.topMark · y) ?_ _
    rcases hs with hs | hs <;> rw [hs] <;> decide
  | content y =>
    rw [Drawing.text, String.toList_ofList]
    refine @hfirst (drawing.leftMark · y) (drawing.cellMark · y) ?_ _
    rw [Drawing.leftMark]
    split <;> decide

/-- Nothing that is printed above the warnings begins as they do. -/
theorem head?_ne_of_above (hp : pattern.Made)
    (hg : Grid.ofPattern pattern (pattern.size + surplus) = .ok grid) {line : String}
    (h : line ∈ (drawingOf grid options).chart ++ ["---"] ++ legend pattern (crossColours grid)) :
    line.toList.head? ≠ some 'W' := by
  simp only [Drawing.chart, List.append_assoc, List.mem_append, List.mem_map,
    List.mem_singleton] at h
  rcases h with ⟨shown, _, rfl⟩ | rfl | rfl | hlegend
  · exact head?_text_ne (separator_drawingOf grid options) shown
  · decide
  · decide
  · obtain ⟨_, _, _, rfl⟩ := exists_entryLine hp hg hlegend
    simp [entryLine]

theorem head?_warningLine (warning : String × Nat) :
    (warningLine warning).toList.head? = some 'W' := by
  simp [warningLine]

/-- The lines for warnings are found only among these. -/
theorem count_warningLine (hp : pattern.Made)
    (hg : Grid.ofPattern pattern (pattern.size + surplus) = .ok grid) (warning : String × Nat) :
    (printedLines pattern options grid).count (warningLine warning) =
      (warnings grid (crossColours grid)).summary.count warning := by
  have habove : warningLine warning ∉
      (drawingOf grid options).chart ++ ["---"] ++ legend pattern (crossColours grid) :=
    fun h => head?_ne_of_above hp hg h (head?_warningLine warning)
  rw [printedLines, List.count_append, List.count_eq_zero_of_not_mem habove, Nat.zero_add,
    List.count_map_of_injective _ _ (fun _ _ => warningLine_inj)]

/-! ### Lines that hold -/

theorem isLine_entryLine {symbol : Char} (hs : symbol ≠ '\n') {usage : Usage}
    (hl : '\n' ∉ usage.label.toList) : Text.IsLine (entryLine symbol usage).toList := by
  refine Text.isLine_counted ?_ (by decide) (by decide) ⟨')', by decide, by decide⟩ usage.count
  have harrow : '\n' ∉ " => ".toList := by decide
  have hcolour : '\n' ∉ "color: ".toList := by decide
  simp only [String.toList_append, String.toList_singleton, List.mem_append, List.mem_singleton,
    not_or]
  exact ⟨⟨⟨hcolour, hs.symm⟩, harrow⟩, hl⟩

theorem isLine_warningLine {colours : List String} {warning : String × Nat}
    (h : warning ∈ (warnings grid colours).summary) :
    Text.IsLine (warningLine warning).toList := by
  have hmessage : warning.1 = stitchAndLineWarning ∨ warning.1 = outOfSymbolsWarning := by
    have hraised := (Warnings.mem_summary_iff.mp h).1
    rcases List.mem_append.mp hraised with hraised | hraised
    · exact .inl (eq_of_mem_collect hraised)
    · obtain ⟨_, _, hsame⟩ := List.mem_map.mp hraised
      exact .inr hsame.symm
  refine Text.isLine_counted ?_ (by decide) (by decide) ⟨']', by decide, by decide⟩ warning.2
  have hmark : '\n' ∉ "WARN: ".toList := by decide
  rw [String.toList_append, List.mem_append, not_or]
  refine ⟨hmark, ?_⟩
  rcases hmessage with hmessage | hmessage <;> rw [hmessage] <;> decide

theorem isLine_printedLines (hp : pattern.Made) (hlabels : pattern.OneLine)
    (hg : Grid.ofPattern pattern (pattern.size + surplus) = .ok grid) {line : String}
    (h : line ∈ printedLines pattern options grid) : Text.IsLine line.toList := by
  simp only [printedLines, Drawing.chart, List.append_assoc, List.mem_append, List.mem_map,
    List.mem_singleton] at h
  rcases h with ⟨shown, _, rfl⟩ | rfl | rfl | hlegend | ⟨warning, hraised, rfl⟩
  · exact Drawing.isLine_text (separator_drawingOf grid options) shown
  · exact ⟨by decide, by decide⟩
  · exact ⟨by decide, by decide⟩
  · obtain ⟨colour, usage, hu, rfl⟩ := exists_entryLine hp hg hlegend
    refine isLine_entryLine (fun hbreak => ?_) (hlabels colour usage hu)
    have hink := (isInk_symbolOf (crossColours grid) colour).2
    rw [hbreak] at hink
    cases hink
  · exact isLine_warningLine hraised

/-! ### The report -/

/-- What the lines of a text tell of the lines that are hidden in its chart. -/
structure ReportsHidden (grid : Grid) (chart lines : List String) : Prop where
  reported : (∃ n, hiddenLinesWarning n ∈ lines) ↔
    ∃ x y : Nat, (grid.look x y).CoversLine
  once : ∀ n, hiddenLinesWarning n ∈ lines →
    n = grid.hiddenLines.card ∧ lines.count (hiddenLinesWarning n) = 1
  drawn : ∀ x y, (x, y) ∈ grid.hiddenLines → ∃ colour, (grid.look x y).cross = some colour ∧
    charAt chart (2 + 2 * y) (2 * x + 1) = symbolOf (crossColours grid) colour

theorem reportsHidden_printedLines (hp : pattern.Made)
    (hg : Grid.ofPattern pattern (pattern.size + surplus) = .ok grid) :
    ReportsHidden grid (chartLines (wholeText pattern options grid))
      (printedLines pattern options grid) := by
  have hnodup := Warnings.nodup_summary (warnings grid (crossColours grid))
  have hmem (n : Nat) : hiddenLinesWarning n ∈ printedLines pattern options grid ↔
      grid.hiddenLines.Nonempty ∧ n = grid.hiddenLines.card := by
    rw [← stitchAndLine_mem_iff, ← List.count_pos_iff, ← warningLine_stitchAndLine,
      count_warningLine hp hg, List.count_pos_iff]
  refine ⟨?_, fun n hn => ?_, fun x y hhidden => ?_⟩
  · simp only [hmem, exists_and_left, exists_eq, and_true, Finset.Nonempty, Prod.exists,
      Grid.mem_hiddenLines_iff]
  · have hsome : (stitchAndLineWarning, n) ∈ (warnings grid (crossColours grid)).summary :=
      stitchAndLine_mem_iff.mpr ((hmem n).mp hn)
    rw [← warningLine_stitchAndLine, count_warningLine hp hg]
    exact ⟨((hmem n).mp hn).2, List.count_eq_one_of_mem hnodup hsome⟩
  · obtain ⟨colour, hcross⟩ :=
      Option.isSome_iff_exists.mp (Grid.mem_hiddenLines_iff.mp hhidden).1
    exact ⟨colour, hcross, charAt_of_cross hp hg hcross⟩

/-- Lines that are hidden by cross stitches are counted in one of the lines that are printed, if
there are any, and the chart has the symbols of the stitches in their places. The lines of the text
say the same, if each label is in one line. A summary of any messages has each of them once, in
increasing order, and its counts are those of all that were pushed, in whatever order. -/
theorem hidden_lines_are_counted (hp : pattern.Made) {output : String}
    (h : render pattern options = .ok output) :
    (∃ grid, Grid.ofPattern pattern (pattern.size + 3) = .ok grid ∧
      output = Text.unlines (printedLines pattern options grid) ∧
      ReportsHidden grid (chartLines output) (printedLines pattern options grid) ∧
      (pattern.OneLine → ReportsHidden grid (chartLines output) (Text.lines output))) ∧
    ∀ messages : List String,
      Warnings.Summarises (Warnings.pushed messages).summary messages ∧
      (Warnings.pushed messages).length = messages.length ∧
      ∀ others : List String, others.Perm messages →
        (Warnings.pushed others).summary = (Warnings.pushed messages).summary := by
  obtain ⟨grid, hg, _, rfl⟩ := render_eq_ok_iff.mp h
  have hreports := @reportsHidden_printedLines pattern options grid hp hg
  have hsummary (messages : List String) :
      Warnings.Summarises (Warnings.pushed messages).summary messages := by
    have hpushed := Warnings.summarises_summary (Warnings.pushed messages)
    rwa [Warnings.messages_pushed] at hpushed
  refine ⟨⟨grid, hg, wholeText_eq_unlines_printedLines, hreports, fun hlabels => ?_⟩,
    fun messages => ⟨hsummary messages, ?_, ?_⟩⟩
  · have hlines : Text.lines (wholeText pattern options grid) =
        printedLines pattern options grid := by
      rw [wholeText_eq_unlines_printedLines]
      exact Text.lines_unlines fun line hl => isLine_printedLines hp hlabels hg hl
    rwa [hlines]
  · rw [Warnings.length, Warnings.messages_pushed]
  · exact fun others hperm => (hsummary others).unique (hsummary messages) hperm

/-- Two crosses, a line over the first and another over the second and the position behind it. -/
def crossesOverLines : List WrittenBlock :=
  BlockKind.palette.write ["r => red"] (by decide) ::
    drawingBlocks .crossStitch ⟨0, 0⟩ ["rr"] (by decide) ++
    drawingBlocks .horizontalLine ⟨0, 0⟩ ["r"] (by decide) ++
    drawingBlocks .verticalLine ⟨1, 0⟩ ["rr"] (by decide)

theorem crossesOverLines_reported :
    ∃ pattern output,
      parsePattern (.alone .empty) (writtenText crossesOverLines) = .ok pattern ∧
      render pattern .default = .ok output ∧
      (Text.lines output).count (hiddenLinesWarning 2) = 1 ∧
      charAt (chartLines output) 4 3 ∈ '?' :: alphabet ∧
      charAt (chartLines output) 4 5 ∈ '?' :: alphabet ∧
      (Warnings.pushed ["b", "a", "b"]).summary = (Warnings.pushed ["a", "b", "b"]).summary := by
  have hmap : (patternOfBlocks .empty (crossesOverLines.map WrittenBlock.block)).map
      (fun p => (p.size, p.outline)) =
        .ok (3, [(⟨"red", .crossStitch⟩, [⟨1, 1⟩, ⟨2, 1⟩]),
          (⟨"red", .horizontalLine⟩, [⟨1, 1⟩]), (⟨"red", .verticalLine⟩, [⟨2, 1⟩, ⟨3, 1⟩])]) := by
    decide +kernel
  obtain ⟨pattern, hblocks, hparts⟩ := map_eq_ok_iff.mp hmap
  obtain ⟨hsize, houtline⟩ := Prod.mk.inj hparts
  have hp : parsePattern (.alone .empty) (writtenText crossesOverLines) = .ok pattern :=
    parsePattern_writtenText.mpr hblocks
  obtain ⟨_, _, hpattern⟩ := parsePattern_eq_ok_iff.mp hp
  have hmade : pattern.Made := .painted hpattern
  have hfree : ¬ pattern.HasConflict := not_hasConflict_of_straight (by rw [houtline]; decide)
  have hrender : ∃ output, render pattern .default = .ok output :=
    (exists_render_eq_ok_iff hmade (by omega)).mpr hfree
  obtain ⟨output, hout⟩ := hrender
  obtain ⟨⟨grid, hg, _, _, hreported⟩, hsummary⟩ := hidden_lines_are_counted hmade hout
  have hreports := hreported (oneLine_of_parsePattern hp)
  have hhidden : grid.hiddenLines = {(1, 1), (2, 1)} := by
    ext ⟨x, y⟩
    rw [Grid.mem_hiddenLines_iff_stitched hmade hg (by omega)]
    simp [Pattern.stitched_iff_outline, houtline]
    omega
  obtain ⟨n, hn⟩ : ∃ n, hiddenLinesWarning n ∈ Text.lines output := by
    refine hreports.reported.mpr ⟨1, 1, Grid.mem_hiddenLines_iff.mp ?_⟩
    rw [hhidden]
    decide
  obtain ⟨rfl, hcount⟩ := hreports.once n hn
  have hshown : ∀ x y, (x, y) ∈ grid.hiddenLines →
      charAt (chartLines output) (2 + 2 * y) (2 * x + 1) ∈ '?' :: alphabet := by
    intro x y hxy
    obtain ⟨colour, _, hchar⟩ := hreports.drawn x y hxy
    rw [hchar]
    exact symbolOf_mem _ _
  refine ⟨pattern, output, hp, hout, ?_, hshown 1 1 ?_, hshown 2 1 ?_, ?_⟩
  · rwa [hhidden] at hcount
  · rw [hhidden]
    decide
  · rw [hhidden]
    decide
  · exact (hsummary ["a", "b", "b"]).2.2 _ (by decide)

/-- A cross with a label of three lines. -/
def brokenLabel : Action :=
  let label := "x\nWARN: cannot have stitch+line in ASCII pattern [7]\ny"
  ⟨Std.ExtTreeMap.empty.insert 'a' ⟨'a', label, "red"⟩, some .crossStitch, ["a"], ⟨0, 0⟩⟩

/-- The second line of the label is a line of the text, and no line is hidden. -/
theorem brokenLabel_reported :
    ∃ pattern grid output, patternOfActions [brokenLabel] = .ok pattern ∧
      Grid.ofPattern pattern (pattern.size + 3) = .ok grid ∧
      render pattern .default = .ok output ∧
      hiddenLinesWarning 7 ∈ Text.lines output ∧ ¬ ∃ x y, (grid.look x y).CoversLine := by
  have hmap : (patternOfActions [brokenLabel]).map (fun pattern => (pattern.outline,
      (render pattern .default).map fun output =>
        (Text.lines output).contains (hiddenLinesWarning 7))) =
        .ok ([(⟨"red", .crossStitch⟩, [⟨1, 1⟩])], .ok true) := by
    decide +kernel
  obtain ⟨pattern, hpattern, hparts⟩ := map_eq_ok_iff.mp hmap
  obtain ⟨houtline, hrendered⟩ := Prod.mk.inj hparts
  obtain ⟨output, hout, hline⟩ := map_eq_ok_iff.mp hrendered
  obtain ⟨grid, hg, _, _⟩ := render_eq_ok_iff.mp hout
  refine ⟨pattern, grid, output, hpattern, hg, hout, by simpa using hline, ?_⟩
  rintro ⟨x, y, hcovers⟩
  rw [← Grid.mem_hiddenLines_iff, Grid.mem_hiddenLines_iff_stitched (.painted hpattern) hg
    (Nat.lt_add_of_pos_right (by decide))] at hcovers
  simp [Pattern.stitched_iff_outline, houtline] at hcovers

end Ascii

end CrossStitch
