import CrossStitch.Proofs.Pattern.Usage
import CrossStitch.Proofs.Render.Agreement
import CrossStitch.Proofs.Render.RowOrder
import CrossStitch.Proofs.Render.Warning
import CrossStitch.Proofs.Text.Counted

/-! What the legend of a text chart is good for. The colours of the cross stitches get the symbols
of the alphabet in the order in which they are met, and the legend has a line with the symbol for
each of them. So the chart can be decoded, unless there are more colours than symbols. This is
the case exactly if there is a warning, which tells how many colours have no symbol. -/

namespace CrossStitch.Ascii

/-! ### Symbols -/

theorem length_alphabet : alphabet.length = 62 := by decide +kernel

variable {colours : List String}

theorem symbolOf_getElem? (hn : colours.Nodup) {i : Nat} {colour : String}
    (h : colours[i]? = some colour) :
    symbolOf colours colour = alphabet.getD i overflowSymbol := by
  obtain ⟨hi, rfl⟩ := List.getElem?_eq_some_iff.mp h
  rw [symbolOf, hn.idxOf_getElem]

/-- With enough symbols, no two colours have the same one. -/
theorem symbolOf_inj (hlength : colours.length ≤ alphabet.length) {colour other : String}
    (hc : colour ∈ colours) (h : symbolOf colours colour = symbolOf colours other) :
    colour = other := by
  rcases (symbolOf_eq_iff hc).mp h with heq | ⟨hover, _⟩
  · exact heq
  · exact absurd (List.idxOf_lt_length_of_mem hc) (by unfold Overflows at hover; omega)

/-! ### Lines below the chart -/

/-- A line of the legend: a symbol, and what is known of the colour that is drawn with it. -/
def entryLine (symbol : Char) (usage : Usage) : String :=
  "color: " ++ String.singleton symbol ++ " => " ++ usage.label ++
    " (count: " ++ toString usage.count ++ ")"

theorem legendLine_of_usage {pattern : Pattern} {colour : String} {usage : Usage}
    (h : pattern.usage? colour = some usage) :
    legendLine pattern colours colour = entryLine (symbolOf colours colour) usage := by
  rw [legendLine, h]
  rfl

/-- Warnings with other messages or counts have other lines. -/
theorem warningLine_inj {warning other : String × Nat}
    (h : warningLine warning = warningLine other) : warning = other := by
  have hmark : ∃ c, " [".toList.getLast? = some c ∧ c.isDigit = false :=
    ⟨'[', by decide, by decide⟩
  obtain ⟨hmessage, hcount⟩ := Text.counted_inj hmark h
  exact Prod.ext ((String.append_right_inj _).mp hmessage) hcount

theorem eq_of_mem_collect {grid : Grid} {message : String}
    (h : message ∈ grid.collect fun s => if hidesLine s then some stitchAndLineWarning else none) :
    message = stitchAndLineWarning := by
  rw [Grid.collect_eq_filterMap, List.mem_filterMap] at h
  obtain ⟨_, _, h⟩ := h
  split at h
  · exact (Option.some.inj h).symm
  · cases h

/-- A message about symbols is raised once for each colour that comes after the alphabet is used
up. -/
theorem count_outOfSymbols (grid : Grid) (colours : List String) :
    (warnings grid colours).messages.count outOfSymbolsWarning =
      colours.length - alphabet.length := by
  have hother : outOfSymbolsWarning ∉
      grid.collect fun s => if hidesLine s then some stitchAndLineWarning else none :=
    fun h => absurd (eq_of_mem_collect h) (by decide)
  rw [warnings, List.count_append, List.count_eq_zero_of_not_mem hother, Nat.zero_add,
    List.map_const', List.count_replicate_self, List.length_drop]

theorem outOfSymbols_mem_iff {grid : Grid} {n : Nat} :
    (outOfSymbolsWarning, n) ∈ (warnings grid colours).summary ↔
      alphabet.length < colours.length ∧ n = colours.length - alphabet.length := by
  rw [Warnings.mem_summary_iff, count_outOfSymbols, ← List.count_pos_iff, count_outOfSymbols,
    Nat.sub_pos_iff_lt]

/-! ### The chart and its legend -/

/-- The lines of a text in the order in which they are printed. -/
def printedLines (pattern : Pattern) (options : RenderOptions) (grid : Grid) : List String :=
  (drawingOf grid options).chart ++ ["---"] ++ legend pattern (crossColours grid) ++
    (warnings grid (crossColours grid)).summary.map warningLine

/-- A chart is read with its legend: of the colours that are met on the grid, which symbols they
are drawn with, what the legend has for them, and what the warnings say. -/
structure Decodes (pattern : Pattern) (grid : Grid) (colours chart legend warnings : List String) :
    Prop where
  met : grid.Meets colours
  /-- Each colour is drawn with the symbol at its own place in the alphabet. -/
  drawn : ∀ (i : Nat) (colour : String), colours[i]? = some colour →
    ∀ x y, (grid.look x y).cross = some colour →
      charAt chart (2 + 2 * y) (2 * x + 1) = alphabet.getD i '?'
  /-- As long as there are symbols, they are the same only for the same colours. -/
  apart : colours.length ≤ 62 → ∀ x y x' y' colour colour',
    (grid.look x y).cross = some colour → (grid.look x' y').cross = some colour' →
      (charAt chart (2 + 2 * y) (2 * x + 1) = charAt chart (2 + 2 * y') (2 * x' + 1) ↔
        colour = colour')
  /-- There is one line for each of the colours, and no other. -/
  listed : ∃ lines : List String, legend.Perm lines ∧ lines.length = colours.length ∧
    ∀ (i : Nat) (colour : String), colours[i]? = some colour →
      ∃ usage, pattern.usage? colour = some usage ∧
        lines[i]? = some (entryLine (alphabet.getD i '?') usage)
  /-- Each line is another warning. -/
  warned : ∃ raised : List (String × Nat), raised.Nodup ∧ warnings = raised.map warningLine
  overflow : ∀ n, warningLine (outOfSymbolsWarning, n) ∈ warnings ↔
    62 < colours.length ∧ n = colours.length - 62

variable {pattern : Pattern} {options : RenderOptions} {grid : Grid}

/-- What is known of a colour that is met. -/
theorem exists_usage_of_met (hp : pattern.Made)
    (hg : Grid.ofPattern pattern (pattern.size + surplus) = .ok grid) {colour : String}
    (h : colour ∈ crossColours grid) : ∃ usage, pattern.usage? colour = some usage := by
  obtain ⟨x, y, hcross⟩ := mem_crossColours_iff.mp h
  have hslot : (grid.look x y).slot .crossStitch = some colour := hcross
  exact hp.exists_usage_of_slot hg hslot

theorem charAt_of_cross (hp : pattern.Made)
    (hg : Grid.ofPattern pattern (pattern.size + surplus) = .ok grid) {x y : Nat} {colour : String}
    (hcross : (grid.look x y).cross = some colour) :
    charAt (chartLines (wholeText pattern options grid)) (2 + 2 * y) (2 * x + 1) =
      symbolOf (crossColours grid) colour := by
  rw [charAt_chartLines hp hg, glyph_of_cross hcross]

theorem decodes_wholeText (hp : pattern.Made)
    (hg : Grid.ofPattern pattern (pattern.size + surplus) = .ok grid) :
    Decodes pattern grid (crossColours grid) (chartLines (wholeText pattern options grid))
      (legend pattern (crossColours grid))
      ((warnings grid (crossColours grid)).summary.map warningLine) := by
  have hmeets := grid.meets_crossColours
  refine ⟨hmeets, ?_, ?_, ?_, ⟨_, Warnings.nodup_summary _, rfl⟩, fun n => ?_⟩
  · intro i colour hi x y hcross
    rw [charAt_of_cross hp hg hcross, symbolOf_getElem? hmeets.nodup hi]
    rfl
  · intro hlength x y x' y' colour colour' hcross hcross'
    rw [charAt_of_cross hp hg hcross, charAt_of_cross hp hg hcross']
    have hmem := (hmeets.mem_iff colour).mpr ⟨x, y, hcross⟩
    exact ⟨symbolOf_inj (length_alphabet ▸ hlength) hmem, congrArg _⟩
  · refine ⟨_, List.mergeSort_perm _ _, List.length_map _, fun i colour hi => ?_⟩
    obtain ⟨usage, hu⟩ := exists_usage_of_met hp hg (List.mem_of_getElem? hi)
    refine ⟨usage, hu, ?_⟩
    rw [List.getElem?_map, hi, Option.map_some, legendLine_of_usage hu,
      symbolOf_getElem? hmeets.nodup hi]
    rfl
  · rw [List.mem_map_of_injective (fun _ _ => warningLine_inj), outOfSymbols_mem_iff,
      length_alphabet]

theorem wholeText_eq_unlines_printedLines :
    wholeText pattern options grid = Text.unlines (printedLines pattern options grid) := by
  rw [printedLines, Drawing.chart, List.append_assoc _ [""] ["---"]]
  rfl

theorem wholeText_eq_unlines (hp : pattern.Made)
    (hg : Grid.ofPattern pattern (pattern.size + surplus) = .ok grid) :
    wholeText pattern options grid =
      Text.unlines (chartLines (wholeText pattern options grid) ++ ["---"] ++
        legend pattern (crossColours grid) ++
        (warnings grid (crossColours grid)).summary.map warningLine) := by
  rw [chartLines_wholeText hp options hg]
  exact wholeText_eq_unlines_printedLines

/-- A text chart is followed by a line that ends it, by a legend that decodes it, and by
warnings. -/
theorem legend_decodes_chart (hp : pattern.Made) {output : String}
    (h : render pattern options = .ok output) :
    ∃ grid colours legend warnings, Grid.ofPattern pattern (pattern.size + 3) = .ok grid ∧
      output = Text.unlines (chartLines output ++ ["---"] ++ legend ++ warnings) ∧
      Decodes pattern grid colours (chartLines output) legend warnings := by
  obtain ⟨grid, hg, _, rfl⟩ := render_eq_ok_iff.mp h
  exact ⟨grid, _, _, _, hg, wholeText_eq_unlines hp hg, decodes_wholeText hp hg⟩

/-- Three red crosses in a row. A green and a blue one are stitched over the first two, and then
another blue one over the green. -/
def overpainted : List Action :=
  let palette : Palette := ((Std.ExtTreeMap.empty.insert 'r' ⟨'r', "red", "red"⟩).insert
    'g' ⟨'g', "green", "green"⟩).insert 'b' ⟨'b', "blue", "blue"⟩
  [⟨palette, some .crossStitch, ["rrr"], ⟨0, 0⟩⟩, ⟨palette, some .crossStitch, ["gb"], ⟨0, 0⟩⟩,
    ⟨palette, some .crossStitch, ["b"], ⟨0, 0⟩⟩]

/-- What is left to be seen of the crosses. -/
def overpaintedCross (x y : Nat) : Option String :=
  if y ≠ 1 then none
  else if x = 1 ∨ x = 2 then some "blue"
  else if x = 3 then some "red"
  else none

theorem meets_overpaintedCross {grid : Grid}
    (h : ∀ x y, (grid.look x y).cross = overpaintedCross x y) : grid.Meets ["blue", "red"] := by
  have hblue : ∀ x y, (grid.look x y).cross = some "blue" ↔ (x = 1 ∨ x = 2) ∧ y = 1 := by
    intro x y
    rw [h, overpaintedCross]
    grind
  have hred : ∀ x y, (grid.look x y).cross = some "red" ↔ x = 3 ∧ y = 1 := by
    intro x y
    rw [h, overpaintedCross]
    grind
  refine ⟨fun colour => ?_, by decide, ?_⟩
  · constructor
    · intro hmem
      rcases List.mem_pair.mp hmem with rfl | rfl
      · exact ⟨1, 1, (hblue 1 1).mpr (by decide)⟩
      · exact ⟨3, 1, (hred 3 1).mpr (by decide)⟩
    · rintro ⟨x, y, hcross⟩
      rw [h, overpaintedCross] at hcross
      grind
  · rw [List.pairwise_pair]
    refine ⟨1, 1, (hblue 1 1).mpr (by decide), fun x y hcross => ?_⟩
    obtain ⟨rfl, rfl⟩ := (hred x y).mp hcross
    exact .inr ⟨rfl, by decide⟩

/-- The green cross is not seen and not in the legend. -/
theorem overpainted_decoded :
    ∃ pattern output legend warnings, patternOfActions overpainted = .ok pattern ∧
      render pattern .default = .ok output ∧
      output = Text.unlines (chartLines output ++ ["---"] ++ legend ++ warnings) ∧
      charAt (chartLines output) 4 3 = 'a' ∧ charAt (chartLines output) 4 7 = 'b' ∧
      legend.Perm ["color: a => blue (count: 2)", "color: b => red (count: 3)"] ∧
      ∀ n, warningLine (outOfSymbolsWarning, n) ∉ warnings := by
  have hmap : (patternOfActions overpainted).map (fun p => (p.size,
      p.outline.all (fun part => part.1.mode = .crossStitch), p.usage? "blue", p.usage? "red")) =
        .ok (3, true, some ⟨"blue", 2⟩, some ⟨"red", 3⟩) := by
    decide +kernel
  obtain ⟨pattern, hp, hparts⟩ := map_eq_ok_iff.mp hmap
  simp only [Prod.mk.injEq] at hparts
  obtain ⟨hsize, hmodes, hblue, hred⟩ := hparts
  have hmade : pattern.Made := .painted hp
  have hfree : ¬ pattern.HasConflict := not_hasConflict_of_crosses (by simpa using hmodes)
  have hrender : ∃ output, render pattern .default = .ok output :=
    (exists_render_eq_ok_iff hmade (by omega)).mpr hfree
  obtain ⟨output, hout⟩ := hrender
  obtain ⟨grid, colours, legend, warnings, hg, htext, hdecodes⟩ := legend_decodes_chart hmade hout
  have hcross : ∀ x y, (grid.look x y).cross = overpaintedCross x y := by
    intro x y
    by_cases hin : x < 6 ∧ y < 6
    · have hslot := (Grid.slot_look hg (by omega) (by omega) .crossStitch).trans
        (lastColour_strokes hp x y .crossStitch)
      have hall : ∀ x < 6, ∀ y < 6, lastColour (overpainted.flatMap Action.dabs) x y .crossStitch =
          overpaintedCross x y := by
        decide +kernel
      exact hslot.trans (hall x hin.1 y hin.2)
    · rw [Grid.look_eq_blank_of_size_lt hmade hg (by omega) (by omega), overpaintedCross]
      grind [Stitches.blank]
  obtain rfl := hdecodes.met.unique (meets_overpaintedCross hcross)
  obtain ⟨lines, hperm, hlength, hlines⟩ := hdecodes.listed
  obtain ⟨first, second, rfl⟩ := List.length_eq_two.mp hlength
  have hlines : [first, second] =
      ["color: a => blue (count: 2)", "color: b => red (count: 3)"] := by
    obtain ⟨_, hu, hfirst⟩ := hlines 0 "blue" rfl
    cases hu.symm.trans hblue
    obtain ⟨_, hu, hsecond⟩ := hlines 1 "red" rfl
    cases hu.symm.trans hred
    rw [Option.some.inj hfirst, Option.some.inj hsecond]
    decide +kernel
  refine ⟨pattern, output, legend, warnings, hp, hout, htext, ?_, ?_, hlines ▸ hperm, ?_⟩
  · exact hdecodes.drawn 0 "blue" rfl 1 1 (hcross 1 1)
  · exact hdecodes.drawn 1 "red" rfl 3 1 (hcross 3 1)
  · intro n hn
    exact absurd ((hdecodes.overflow n).mp hn).1 (by decide)

end CrossStitch.Ascii
