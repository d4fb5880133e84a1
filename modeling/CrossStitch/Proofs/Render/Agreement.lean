import CrossStitch.Proofs.Render.Position
import CrossStitch.Proofs.Render.TextChart

/-! The text chart and the page of one pattern. They are made from grids of different extent,
and one of them leaves out what is blank at its end. Yet at every position up to the size of
the pattern they show the same. Only the colours that no symbol is left for are all one in the
text chart, where the page still tells them apart. -/

namespace CrossStitch

/-- A character of a text chart shows the same as a cell with the value and the parts of its
style, if the colours have their symbols in the given order. -/
structure ShownAlike (colours : List String) (shown : Char) (value : String) (parts : List String) :
    Prop where
  /-- Every background has a symbol. -/
  known : ∀ colour, Html.background colour ∈ parts → colour ∈ colours
  symbol : ∀ colour ∈ colours, shown = Ascii.symbolOf colours colour ↔
    ∃ other, Html.background other ∈ parts ∧
      (other = colour ∨ Ascii.Overflows colours other ∧ Ascii.Overflows colours colour)
  line : ∀ kind : LineKind, shown = kind.char ↔
    kind.IsMarkup value ∧ ∀ colour, Html.background colour ∉ parts
  blank : shown = ' ' ↔
    (∀ kind : LineKind, ¬ kind.IsMarkup value) ∧ ∀ colour, Html.background colour ∉ parts

theorem shownAlike_glyph {colours : List String} {stitches : Stitches} {label : String}
    (hfree : stitches.conflicts = false)
    (hcross : ∀ colour, stitches.cross = some colour → colour ∈ colours)
    (hlabel : '<' ∉ label.toList) :
    ShownAlike colours (Ascii.glyph colours stitches) ((Html.lineMarkup? stitches).getD label)
      (Html.styleParts stitches) where
  known colour h := hcross colour (Html.background_mem_styleParts_iff.mp h)
  symbol colour _ := by
    simp only [Html.background_mem_styleParts_iff]
    exact Ascii.glyph_eq_symbolOf_iff hfree hcross colour
  line kind := by
    rw [Html.isMarkup_iff hlabel, Html.forall_background_not_mem_iff]
    exact Ascii.glyph_eq_char_iff hfree kind
  blank := by
    simp only [Html.isMarkup_iff hlabel, Html.forall_background_not_mem_iff]
    rw [← Option.eq_none_iff_forall_ne_some]
    exact Ascii.glyph_eq_space_iff hfree

/-- The cells of a page are in the order of their rows. -/
theorem Html.getElem?_cells {pattern : Pattern} {grid : Grid} {x y : Nat} (hx : x ≤ pattern.size)
    (hy : y ≤ pattern.size) :
    (wholeChart pattern grid).cells[y * (pattern.size + 1) + x]? =
      some (pageCell grid (idWidth pattern.size) x y) := by
  have hrow : ∀ row, ((List.range (pattern.size + 1)).map fun column =>
      pageCell grid (idWidth pattern.size) column row).length = pattern.size + 1 := by
    simp
  have hx : x < pattern.size + 1 := by omega
  rw [wholeChart, Nat.mul_comm, getElem?_flatMap_range hrow (by omega) hx, List.getElem?_map,
    List.getElem?_range hx]
  rfl

theorem charAt_chartLines {pattern : Pattern} (hp : pattern.Made) {options : RenderOptions}
    {grid : Grid} (hg : Grid.ofPattern pattern (pattern.size + Ascii.surplus) = .ok grid)
    (x y : Nat) :
    Ascii.charAt (Ascii.chartLines (Ascii.wholeText pattern options grid)) (2 + 2 * y) (2 * x + 1) =
      Ascii.glyph (Ascii.crossColours grid) (grid.look x y) := by
  rw [Ascii.chartLines_wholeText hp options hg]
  exact (Ascii.roomy_drawingOf hp options hg).charAt_cellMark x y

/-- The text chart and the page of a pattern show the same at every position. -/
theorem charts_show_alike {pattern : Pattern} (hp : pattern.Made) {options : RenderOptions}
    {output : String} (htext : Ascii.render pattern options = .ok output) {page : Html.PageChart}
    (hpage : Html.chart pattern = .ok page) {x y : Nat} (hx : x ≤ pattern.size)
    (hy : y ≤ pattern.size) :
    ∃ textGrid pageGrid cell, Grid.ofPattern pattern (pattern.size + 3) = .ok textGrid ∧
      Grid.ofPattern pattern (pattern.size + 1) = .ok pageGrid ∧ page.size = pattern.size + 1 ∧
      page.cells[y * page.size + x]? = some cell ∧
      cell.style = String.intercalate "; " (Html.styleParts (pageGrid.look x y)) ∧
      ShownAlike (Ascii.crossColours textGrid)
        (Ascii.charAt (Ascii.chartLines output) (2 + 2 * y) (2 * x + 1)) cell.value
        (Html.styleParts (pageGrid.look x y)) := by
  obtain ⟨textGrid, htg, _, rfl⟩ := Ascii.render_eq_ok_iff.mp htext
  obtain ⟨pageGrid, hpg, hnone, rfl⟩ := Html.chart_eq_ok_iff.mp hpage
  refine ⟨textGrid, pageGrid, _, htg, hpg, rfl, Html.getElem?_cells hx hy, rfl, ?_⟩
  have hlook : textGrid.look x y = pageGrid.look x y :=
    Grid.look_eq_look hp htg (by simp [Ascii.surplus]) hpg (by omega) x y
  have hfree : (pageGrid.look x y).conflicts = false := by
    have hextent := Grid.extent_ofPattern hpg
    exact Grid.find?_eq_none_iff.mp hnone x y (by omega) (by omega)
  have hcross : ∀ colour, (pageGrid.look x y).cross = some colour →
      colour ∈ Ascii.crossColours textGrid := by
    intro colour h
    exact Ascii.mem_crossColours_iff.mpr ⟨x, y, hlook ▸ h⟩
  rw [charAt_chartLines hp htg, hlook]
  exact shownAlike_glyph hfree hcross (Html.not_mem_marginLabel x y)

/-- A cross stitch, and a line at its position and the next. -/
def lineBehindCross : List Action :=
  let palette : Palette := Std.ExtTreeMap.empty.insert 'a' ⟨'a', "red", "red"⟩
  [⟨palette, some .crossStitch, ["a"], ⟨0, 0⟩⟩, ⟨palette, some .horizontalLine, ["aa"], ⟨0, 0⟩⟩]

theorem lineBehindCross_alike :
    ∃ pattern output page cell, patternOfActions lineBehindCross = .ok pattern ∧
      Ascii.render pattern .default = .ok output ∧ Html.chart pattern = .ok page ∧
      page.cells[1 * page.size + 2]? = some cell ∧ LineKind.horizontal.IsMarkup cell.value ∧
      Ascii.charAt (Ascii.chartLines output) 4 5 = '-' := by
  have hmap : (patternOfActions lineBehindCross).map (fun p => (p.size, p.outline)) =
      .ok (2, [(⟨"red", .crossStitch⟩, [⟨1, 1⟩]),
        (⟨"red", .horizontalLine⟩, [⟨1, 1⟩, ⟨2, 1⟩])]) := by
    decide +kernel
  obtain ⟨pattern, hp, hparts⟩ := map_eq_ok_iff.mp hmap
  obtain ⟨hsize, houtline⟩ := Prod.mk.inj hparts
  have hmade : pattern.Made := .painted hp
  have hfree : ¬ pattern.HasConflict := by
    rintro ⟨x, y, _, _, hconf⟩
    simp [Pattern.Conflict, Pattern.stitched_iff_outline, houtline] at hconf
  have hrender : ∃ output, Ascii.render pattern .default = .ok output :=
    (Ascii.exists_render_eq_ok_iff hmade (by omega)).mpr hfree
  obtain ⟨output, hout⟩ := hrender
  obtain ⟨page, hpage⟩ := (Html.exists_chart_eq_ok_iff hmade (by omega)).mpr hfree
  obtain ⟨_, pageGrid, cell, _, hpg, _, hcell, _, halike⟩ :=
    charts_show_alike hmade hout hpage (x := 2) (y := 1) (by omega) (by omega)
  have hslot : ∀ mode, ((pageGrid.look 2 1).slot mode).isSome ↔ mode = .horizontalLine := by
    intro mode
    rw [Grid.isSome_slot_iff_of_size_lt hmade hpg (by omega), Pattern.stitched_iff_outline,
      houtline]
    cases mode <;> decide
  have hbare : (pageGrid.look 2 1).cross = none := by
    have hcross := (hslot .crossStitch).not.mpr (by decide)
    exact Option.not_isSome_iff_eq_none.mp hcross
  have hkind : (pageGrid.look 2 1).lineKind? = some .horizontal := by
    obtain ⟨colour, hline⟩ := Option.isSome_iff_exists.mp ((hslot .horizontalLine).mpr rfl)
    have hother := Option.not_isSome_iff_eq_none.mp ((hslot .verticalLine).not.mpr (by decide))
    simp only [Stitches.slot] at hline hother
    rw [Stitches.lineKind?, hline, hother]
  have hmarkup : LineKind.horizontal.IsMarkup cell.value := by
    obtain ⟨grid, hg, _, rfl⟩ := Html.chart_eq_ok_iff.mp hpage
    cases hpg.symm.trans hg
    have hdrawn := Option.some.inj (hcell.symm.trans (Html.getElem?_cells (by omega) (by omega)))
    rw [hdrawn]
    exact (Html.isMarkup_iff (Html.not_mem_marginLabel 2 1) _).mpr hkind
  refine ⟨pattern, output, page, cell, hp, hout, hpage, hcell, hmarkup, ?_⟩
  exact (halike.line .horizontal).mpr ⟨hmarkup, Html.forall_background_not_mem_iff.mpr hbare⟩

/-- A chart with two colours more than there are symbols shows one of them at a position that
has the other as its background. -/
theorem exists_shared_symbol {pattern : Pattern} {textGrid pageGrid : Grid}
    {options : RenderOptions} (hp : pattern.Made)
    (htg : Grid.ofPattern pattern (pattern.size + Ascii.surplus) = .ok textGrid)
    (hpg : Grid.ofPattern pattern (pattern.size + 1) = .ok pageGrid)
    (hmany : Ascii.alphabet.length + 1 < (Ascii.crossColours textGrid).length) :
    ∃ x y, x ≤ pattern.size ∧ y ≤ pattern.size ∧ ∃ colour ∈ Ascii.crossColours textGrid,
      Ascii.charAt (Ascii.chartLines (Ascii.wholeText pattern options textGrid)) (2 + 2 * y)
        (2 * x + 1) = Ascii.symbolOf (Ascii.crossColours textGrid) colour ∧
      Html.background colour ∉ Html.styleParts (pageGrid.look x y) := by
  have hnodup : (Ascii.crossColours textGrid).Nodup := Ascii.nodup_eraseDups _
  obtain ⟨colour, hcolour, other, hother, hne, hover, hover'⟩ := Ascii.exists_overflows hnodup hmany
  obtain ⟨x, y, hcross⟩ := Ascii.mem_crossColours_iff.mp hother
  have hin : x ≤ pattern.size ∧ y ≤ pattern.size := by
    by_contra hout
    rw [Grid.look_eq_blank_of_size_lt hp htg (by simp [Ascii.surplus]) (by omega)] at hcross
    cases hcross
  have hlook : textGrid.look x y = pageGrid.look x y :=
    Grid.look_eq_look hp htg (by simp [Ascii.surplus]) hpg (by omega) x y
  refine ⟨x, y, hin.1, hin.2, colour, hcolour, ?_, ?_⟩
  · rw [charAt_chartLines hp htg, Ascii.glyph_of_cross hcross, Ascii.symbolOf_of_overflows hover',
      Ascii.symbolOf_of_overflows hover]
  · rw [Html.background_mem_styleParts_iff, ← hlook, hcross]
    simpa using hne.symm

theorem not_hasConflict_of_crosses {pattern : Pattern}
    (hmode : ∀ part ∈ pattern.outline, part.1.mode = .crossStitch) : ¬ pattern.HasConflict := by
  have hcross : ∀ x y mode, pattern.Stitched x y mode → mode = .crossStitch := by
    intro x y mode hs
    obtain ⟨part, hpart, rfl, _⟩ := Pattern.stitched_iff_outline.mp hs
    exact hmode part hpart
  rintro ⟨x, y, _, _, ⟨hd | hd, _⟩ | ⟨hd, _⟩⟩
  · cases hcross x y _ hd
  · cases hcross x y _ hd
  · cases hcross x y _ hd

/-- If no two of its strands have a cell in common, a chart of cross stitches shows the colours
of all of them. -/
theorem subset_crossColours {pattern : Pattern} {extent : Nat} {grid : Grid} (hp : pattern.Made)
    (hg : Grid.ofPattern pattern extent = .ok grid) (hsize : pattern.size < extent)
    (hmode : ∀ part ∈ pattern.outline, part.1.mode = .crossStitch)
    (hplace : ∀ part ∈ pattern.outline, ∃ cell ∈ part.2, 0 ≤ cell.x.toInt ∧ 0 ≤ cell.y.toInt)
    (hapart : ∀ part ∈ pattern.outline, ∀ other ∈ pattern.outline, ∀ cell ∈ part.2,
      ∀ cell' ∈ other.2, cell.x.toInt = cell'.x.toInt → cell.y.toInt = cell'.y.toInt →
        part.1 = other.1) :
    (pattern.outline.map fun part => part.1.colour) ⊆ Ascii.crossColours grid := by
  intro colour hcolour
  obtain ⟨part, hpart, rfl⟩ := List.mem_map.mp hcolour
  obtain ⟨cell, hcell, hx, hy⟩ := hplace part hpart
  obtain ⟨x, hx⟩ := Int.eq_ofNat_of_zero_le hx
  obtain ⟨y, hy⟩ := Int.eq_ofNat_of_zero_le hy
  have hstitched : pattern.Stitched x y .crossStitch :=
    Pattern.stitched_iff_outline.mpr ⟨part, hpart, hmode part hpart, cell, hcell, hx, hy⟩
  obtain ⟨shown, hs⟩ := Option.isSome_iff_exists.mp
    ((Grid.isSome_slot_iff_of_size_lt hp hg hsize x y _).mpr hstitched)
  -- what is shown there is the colour of a strand with the same cell
  obtain ⟨other, ho, hstrand, cell', hcell', hx', hy'⟩ := Grid.exists_part_of_slot hp hg hs
  rw [hapart part hpart other ho cell hcell cell' hcell' (hx.trans hx'.symm) (hy.trans hy'.symm),
    hstrand]
  exact Ascii.mem_crossColours_iff.mpr ⟨x, y, hs⟩

/-- A cross stitch of its own colour in each of 64 positions. -/
def manyColours : List Action :=
  let palette : Palette := (Ascii.alphabet ++ ['+', '*']).foldl
    (fun palette c => palette.insert c ⟨c, String.singleton c, String.singleton c⟩)
    Std.ExtTreeMap.empty
  [⟨palette, some .crossStitch, ["abcdefgh", "ijklmnop", "qrstuvwx", "yzABCDEF", "GHIJKLMN",
    "OPQRSTUV", "WXYZ0123", "456789+*"], ⟨0, 0⟩⟩]

/-- One strand with one cell for each of the colours. -/
def manyStrands : List (Strand × List Cell) :=
  (Ascii.alphabet ++ ['+', '*']).zipIdx.map fun (c, i) =>
    (⟨String.singleton c, .crossStitch⟩, [⟨Int32.ofNat (i % 8 + 1), Int32.ofNat (i / 8 + 1)⟩])

theorem manyColours_share_a_symbol :
    ∃ pattern output page textGrid pageGrid, patternOfActions manyColours = .ok pattern ∧
      Ascii.render pattern .default = .ok output ∧ Html.chart pattern = .ok page ∧
      Grid.ofPattern pattern (pattern.size + 3) = .ok textGrid ∧
      Grid.ofPattern pattern (pattern.size + 1) = .ok pageGrid ∧
      ∃ x y, x ≤ pattern.size ∧ y ≤ pattern.size ∧ ∃ colour ∈ Ascii.crossColours textGrid,
        Ascii.charAt (Ascii.chartLines output) (2 + 2 * y) (2 * x + 1) =
          Ascii.symbolOf (Ascii.crossColours textGrid) colour ∧
        Html.background colour ∉ Html.styleParts (pageGrid.look x y) := by
  have hmap : (patternOfActions manyColours).map (fun p => (p.size, p.outline)) =
      .ok (8, manyStrands) := by
    decide +kernel
  obtain ⟨pattern, hp, hparts⟩ := map_eq_ok_iff.mp hmap
  obtain ⟨hsize, houtline⟩ := Prod.mk.inj hparts
  have hmode : ∀ part ∈ pattern.outline, part.1.mode = .crossStitch := by
    rw [houtline]
    decide +kernel
  have hplace : ∀ part ∈ pattern.outline, ∃ cell ∈ part.2, 0 ≤ cell.x.toInt ∧ 0 ≤ cell.y.toInt := by
    rw [houtline]
    decide +kernel
  have hapart : ∀ part ∈ pattern.outline, ∀ other ∈ pattern.outline, ∀ cell ∈ part.2,
      ∀ cell' ∈ other.2, cell.x.toInt = cell'.x.toInt → cell.y.toInt = cell'.y.toInt →
        part.1 = other.1 := by
    rw [houtline]
    decide +kernel
  have hnames : (pattern.outline.map fun part => part.1.colour).Nodup := by
    rw [houtline]
    decide +kernel
  have hlength : (pattern.outline.map fun part => part.1.colour).length = 64 := by
    rw [houtline]
    decide +kernel
  have hmade : pattern.Made := .painted hp
  have hfree := not_hasConflict_of_crosses hmode
  have hrender : ∃ output, Ascii.render pattern .default = .ok output :=
    (Ascii.exists_render_eq_ok_iff hmade (by omega)).mpr hfree
  obtain ⟨_, hout⟩ := hrender
  obtain ⟨page, hpage⟩ := (Html.exists_chart_eq_ok_iff hmade (by omega)).mpr hfree
  obtain ⟨textGrid, htg, _, rfl⟩ := Ascii.render_eq_ok_iff.mp hout
  obtain ⟨pageGrid, hpg, _⟩ := Html.chart_eq_ok_iff.mp hpage
  have hshown := subset_crossColours hmade htg (by simp [Ascii.surplus]) hmode hplace hapart
  have hmany : Ascii.alphabet.length + 1 < (Ascii.crossColours textGrid).length := by
    have hle := (List.subperm_of_subset hnames hshown).length_le
    have halphabet : Ascii.alphabet.length = 62 := by decide +kernel
    omega
  exact ⟨pattern, _, page, textGrid, pageGrid, hp, hout, hpage, htg, hpg,
    exists_shared_symbol hmade htg hpg hmany⟩

end CrossStitch
