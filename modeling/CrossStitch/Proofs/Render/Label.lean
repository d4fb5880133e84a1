import CrossStitch.Proofs.Action.Completeness
import CrossStitch.Proofs.Render.Legend

/-! The labels of colours in a chart that was read from source. A label is a spelling of its
colour, so the table leads from it back to the colour, and different colours never share a label.
This is why no two lines of a legend are the same, although colours are known by what they stand
for and labels by what the chart calls them. -/

namespace CrossStitch

/-! ### Sorting -/

theorem pairwise_le_mergeSort (lines : List String) :
    (lines.mergeSort fun a b => a ≤ b).Pairwise fun a b => a ≤ b := by
  have htrans : ∀ a b c : String, decide (a ≤ b) = true → decide (b ≤ c) = true →
      decide (a ≤ c) = true :=
    fun a b c => by simpa using String.le_trans
  have htotal : ∀ a b : String, (decide (a ≤ b) || decide (b ≤ a)) = true :=
    fun a b => by simpa using String.le_total a b
  exact (List.pairwise_mergeSort htrans htotal lines).imp of_decide_eq_true

/-- Different lines are sorted strictly. -/
theorem pairwise_lt_mergeSort {lines : List String} (h : lines.Nodup) :
    (lines.mergeSort fun a b => a ≤ b).Pairwise fun a b => a < b := by
  have hnodup := (List.mergeSort_perm lines fun a b => a ≤ b).nodup_iff.mpr h
  refine (pairwise_le_mergeSort lines).imp₂ (fun a b hle hne => ?_) hnodup
  by_contra hlt
  exact hne (String.le_antisymm hle hlt)

/-! ### Lines of the legends -/

theorem Html.legendLine_inj {usage other : Usage} (h : legendLine usage = legendLine other) :
    usage = other := by
  have hmark : ∃ c, " (count ".toList.getLast? = some c ∧ c.isDigit = false :=
    ⟨' ', by decide, by decide⟩
  obtain ⟨hlabel, hcount⟩ := Text.counted_inj hmark h
  cases usage
  cases other
  rw [Usage.mk.injEq]
  exact ⟨(String.append_right_inj _).mp hlabel, hcount⟩

theorem Ascii.entryLine_inj {symbol symbol' : Char} {usage usage' : Usage}
    (h : entryLine symbol usage = entryLine symbol' usage') :
    symbol = symbol' ∧ usage = usage' := by
  have hmark : ∃ c, " (count: ".toList.getLast? = some c ∧ c.isDigit = false :=
    ⟨' ', by decide, by decide⟩
  obtain ⟨hlabel, hcount⟩ := Text.counted_inj hmark h
  -- the symbol is one character, so the labels start at the same place
  have hlist := congrArg String.toList hlabel
  simp only [String.append_assoc, String.toList_append, List.append_cancel_left_eq,
    String.toList_singleton, List.cons_append, List.nil_append, List.cons.injEq] at hlist
  cases usage
  cases usage'
  rw [Usage.mk.injEq]
  exact ⟨hlist.1, String.toList_injective hlist.2, hcount⟩

/-! ### Labels -/

/-- Every colour of the usage table is a proper one, and the table of colours leads to it from its
label. -/
def Pattern.Labelled (colours : ColourTable) (pattern : Pattern) : Prop :=
  ∀ (colour : String) (usage : Usage), pattern.usage? colour = some usage →
    colour ≠ noColour ∧ colours.resolveOrLiteral usage.label = colour

theorem labelled_of_parsePattern {context : ChartContext} {source : String} {pattern : Pattern}
    (h : parsePattern context source = .ok pattern) : pattern.Labelled context.colours := by
  intro colour usage hu
  obtain ⟨actions, hactions, hpattern⟩ := parsePattern_eq_ok_iff.mp h
  obtain ⟨hcolour, action, ha, symbol, dye, hdye, rfl, hraw⟩ := exists_dye_of_usage hpattern hu
  have hpalette := (parseActions_complete hactions action ha).palette
  refine ⟨hcolour, ?_⟩
  rw [← hraw]
  exact (hpalette.resolved symbol dye hdye).symm

variable {colours : ColourTable} {pattern : Pattern}

/-- Different colours have different labels. -/
theorem Pattern.Labelled.inj (h : pattern.Labelled colours) {colour colour' : String}
    {usage usage' : Usage} (hu : pattern.usage? colour = some usage)
    (hu' : pattern.usage? colour' = some usage') (hlabel : usage.label = usage'.label) :
    colour = colour' := by
  rw [← (h colour usage hu).2, hlabel, (h colour' usage' hu').2]

theorem Pattern.Labelled.nodup_pageLegend (h : pattern.Labelled colours) :
    (pattern.usage.values.map Html.legendLine).Nodup := by
  have hget : ∀ entry ∈ pattern.usage.toList, pattern.usage? entry.1 = some entry.2 :=
    fun entry he => Std.ExtTreeMap.mem_toList_iff_getElem?_eq_some.mp he
  have hkeys : (pattern.usage.toList.map Prod.fst).Nodup := by
    rw [Std.ExtTreeMap.map_fst_toList_eq_keys]
    exact Std.ExtTreeMap.nodup_keys
  rw [values_eq_map_toList, List.map_map]
  refine List.Nodup.map_on (fun entry he other ho hline => ?_) (List.Nodup.of_map _ hkeys)
  have husage : entry.2 = other.2 := Html.legendLine_inj hline
  exact Prod.ext (h.inj (hget entry he) (hget other ho) (congrArg Usage.label husage)) husage

/-- The lines for different colours that are in the usage table are different. -/
theorem Pattern.Labelled.nodup_textLegend (h : pattern.Labelled colours) {met : List String}
    (hn : met.Nodup) (hu : ∀ colour ∈ met, ∃ usage, pattern.usage? colour = some usage) :
    (met.map (Ascii.legendLine pattern met)).Nodup := by
  refine List.Nodup.map_on (fun colour hc other ho hline => ?_) hn
  obtain ⟨usage, husage⟩ := hu colour hc
  obtain ⟨usage', husage'⟩ := hu other ho
  rw [Ascii.legendLine_of_usage husage, Ascii.legendLine_of_usage husage'] at hline
  exact h.inj husage husage' (congrArg Usage.label (Ascii.entryLine_inj hline).2)

/-- In a chart that was read from source, each colour is led to from its label, so that different
colours have different labels. Both legends have one line for each colour they are about, all
different and in order, and no colour is drawn that the usage table does not have. -/
theorem labels_identify_colours {context : ChartContext} {source : String} {pattern : Pattern}
    (h : parsePattern context source = .ok pattern) :
    pattern.Labelled context.colours ∧
    (∀ (colour colour' : String) (usage usage' : Usage), pattern.usage? colour = some usage →
      pattern.usage? colour' = some usage' → usage.label = usage'.label → colour = colour') ∧
    (∀ page, Html.chart pattern = .ok page →
      page.legend.Perm (pattern.usage.toList.map fun entry => Html.legendLine entry.2) ∧
      page.legend.length = pattern.usage.size ∧
      page.legend.Pairwise fun line next => line < next) ∧
    ∀ options output, Ascii.render pattern options = .ok output →
      ∃ grid met legend warnings, Grid.ofPattern pattern (pattern.size + 3) = .ok grid ∧
        output = Text.unlines (Ascii.chartLines output ++ ["---"] ++ legend ++ warnings) ∧
        Ascii.Decodes pattern grid met (Ascii.chartLines output) legend warnings ∧
        (legend.Pairwise fun line next => line < next) ∧
        ∀ colour ∈ met, ∃ usage, pattern.usage? colour = some usage := by
  have hlabelled := labelled_of_parsePattern h
  obtain ⟨actions, _, hpattern⟩ := parsePattern_eq_ok_iff.mp h
  have hmade : pattern.Made := .painted hpattern
  refine ⟨hlabelled, fun _ _ _ _ hu hu' => hlabelled.inj hu hu', fun page hpage => ?_,
    fun options output hout => ?_⟩
  · obtain ⟨grid, _, _, rfl⟩ := Html.chart_eq_ok_iff.mp hpage
    have hlines : (pattern.usage.values.map Html.legendLine) =
        pattern.usage.toList.map fun entry => Html.legendLine entry.2 := by
      rw [values_eq_map_toList, List.map_map]
      rfl
    have hperm := List.mergeSort_perm (pattern.usage.values.map Html.legendLine) fun a b => a ≤ b
    refine ⟨hlines ▸ hperm, hperm.length_eq.trans ?_,
      pairwise_lt_mergeSort hlabelled.nodup_pageLegend⟩
    rw [hlines, List.length_map, Std.ExtTreeMap.length_toList]
  · obtain ⟨grid, hg, _, rfl⟩ := Ascii.render_eq_ok_iff.mp hout
    have hmet := grid.meets_crossColours
    have hknown : ∀ colour ∈ Ascii.crossColours grid, ∃ usage,
        pattern.usage? colour = some usage :=
      fun colour hc => Ascii.exists_usage_of_met hmade hg hc
    exact ⟨grid, _, _, _, hg, Ascii.wholeText_eq_unlines hmade hg,
      Ascii.decodes_wholeText hmade hg,
      pairwise_lt_mergeSort (hlabelled.nodup_textLegend hmet.nodup hknown), hknown⟩

/-- A table with one name. -/
def crimsonTable : ColourTable :=
  ColourTable.empty.insert "crimson" "#dc143c"

/-- Two spellings of one colour, and another colour. -/
def twoSpellings : List WrittenBlock :=
  BlockKind.palette.write ["a => #dc143c", "b => crimson", "c => blue"] (by decide) ::
    drawingBlocks .crossStitch ⟨0, 0⟩ ["abc"] (by decide)

theorem twoSpellings_labelled :
    ∃ pattern page, parsePattern (.alone crimsonTable) (writtenText twoSpellings) = .ok pattern ∧
      pattern.usage? "#dc143c" = some ⟨"crimson", 2⟩ ∧
      crimsonTable.resolveOrLiteral "crimson" = "#dc143c" ∧
      Html.chart pattern = .ok page ∧ page.legend.length = 2 ∧
      page.legend.Pairwise fun line next => line < next := by
  have hmap : (patternOfBlocks crimsonTable (twoSpellings.map WrittenBlock.block)).map
      (fun p => (p.size, p.outline.all (fun part => part.1.mode = .crossStitch),
        p.usage? "#dc143c", p.usage.size)) = .ok (3, true, some ⟨"crimson", 2⟩, 2) := by
    decide +kernel
  obtain ⟨pattern, hblocks, hparts⟩ := map_eq_ok_iff.mp hmap
  simp only [Prod.mk.injEq] at hparts
  obtain ⟨hsize, hmodes, hcrimson, husages⟩ := hparts
  have hp : parsePattern (.alone crimsonTable) (writtenText twoSpellings) = .ok pattern :=
    parsePattern_writtenText.mpr hblocks
  obtain ⟨hlabelled, _, hlegend, _⟩ := labels_identify_colours hp
  obtain ⟨_, _, hpattern⟩ := parsePattern_eq_ok_iff.mp hp
  have hfree : ¬ pattern.HasConflict := not_hasConflict_of_crosses (by simpa using hmodes)
  obtain ⟨page, hpage⟩ := (Html.exists_chart_eq_ok_iff (.painted hpattern) (by omega)).mpr hfree
  obtain ⟨_, hlength, hsorted⟩ := hlegend page hpage
  exact ⟨pattern, page, hp, hcrimson, (hlabelled _ _ hcrimson).2, hpage, husages ▸ hlength, hsorted⟩

end CrossStitch
