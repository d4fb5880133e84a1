import CrossStitch.Proofs.Render.Drawing
import CrossStitch.Proofs.Render.Rejection

/-! What a text chart shows. The lines that are left out have no mark, so the chart can be read
as if it went on without end: at the places of a position stand the marks that the grid has
for it, be they printed or not. -/

namespace CrossStitch.Ascii

/-- The character at a place of a chart. Beyond its lines there are blanks. -/
def charAt (chart : List String) (i j : Nat) : Char :=
  (chart[i]?.bind fun line => line.toList[j]?).getD ' '

namespace Drawing

variable {drawing : Drawing} {size : Nat}

/-! ### Places of a chart -/

theorem Roomy.index_lt_of_marked (h : drawing.Roomy size) {line : ChartLine}
    (hm : drawing.Marked line) : line.index < drawing.shownLines.length := by
  have hmark := markOn_index.mpr hm
  obtain ⟨last, hlast⟩ := h.exists_last ⟨_, hmark⟩
  have hle : line.index ≤ last := hlast.2 hmark
  have hin := h.index_le hlast.1
  rw [h.shownLines_eq_take hlast, List.length_take, length_lines, h.extent, surplus]
  omega

theorem Roomy.getElem?_shownLines (h : drawing.Roomy size) {line : ChartLine}
    (hshown : line.index < drawing.shownLines.length) :
    drawing.shownLines[line.index]? = some line := by
  by_cases hany : ∃ i, drawing.MarkOn i
  · obtain ⟨last, hlast⟩ := h.exists_last hany
    have htake := h.shownLines_eq_take hlast
    rw [htake, List.length_take, length_lines] at hshown
    have hwithin : line.Within drawing.grid.extent := by
      cases line <;> simp only [ChartLine.index, ChartLine.Within] at hshown ⊢ <;> omega
    rw [htake, List.getElem?_take_of_lt (by omega), getElem?_lines hwithin]
  · rw [h.shownLines_eq_nil (not_exists.mp hany)] at hshown
    cases hshown

/-- The lines shown, and the empty line below them. -/
def chart (drawing : Drawing) : List String :=
  drawing.shownLines.map drawing.text ++ [""]

/-- Places that are not drawn count as blank, and so the chart may as well be taken to show all
lines of the drawing. -/
theorem Roomy.charAt_chart (h : drawing.Roomy size) (line : ChartLine) {j : Nat} {c : Char}
    (hat : (drawing.text line).toList[j]?.getD ' ' = c) (hc : c ≠ ' ' → drawing.Marked line) :
    charAt drawing.chart line.index j = c := by
  by_cases hshown : line.index < drawing.shownLines.length
  · have hget : drawing.chart[line.index]? = some (drawing.text line) := by
      rw [chart, List.getElem?_append_left (by simpa using hshown), List.getElem?_map,
        h.getElem?_shownLines hshown, Option.map_some]
    rw [charAt, hget]
    exact hat
  · have hblank : c = ' ' := by
      by_contra hne
      exact hshown (h.index_lt_of_marked (hc hne))
    have hbelow : ∀ text ∈ drawing.chart[line.index]?, text = "" := by
      intro text ht
      rw [chart, List.getElem?_append_right (by simpa using Nat.le_of_not_lt hshown)] at ht
      exact List.mem_singleton.mp (List.mem_of_getElem? ht)
    rw [charAt, hblank]
    cases ht : drawing.chart[line.index]? with
    | none => rfl
    | some text =>
      rw [hbelow text ht]
      rfl

theorem topEdge_of_topMark {x y : Nat} (h : drawing.topMark x y ≠ ' ') :
    drawing.grid.topEdge x y = true := by
  by_contra hno
  exact h (if_neg hno)

theorem leftEdge_of_leftMark {x y : Nat} (h : drawing.leftMark x y ≠ ' ') :
    drawing.grid.leftEdge x y = true := by
  by_contra hno
  exact h (if_neg hno)

theorem Roomy.charAt_topMark (h : drawing.Roomy size) (x y : Nat) :
    charAt drawing.chart (1 + 2 * y) (2 * x + 1) = drawing.topMark x y := by
  refine h.charAt_chart (.border y) ((drawing.alternates_border y).getD_odd ?_) ?_
  · intro hout
    by_contra hmark
    have := h.le_of_topEdge (topEdge_of_topMark hmark)
    rw [h.extent, surplus] at hout
    omega
  · exact fun hmark => ⟨x, topEdge_of_topMark hmark⟩

theorem Roomy.charAt_leftMark (h : drawing.Roomy size) (x y : Nat) :
    charAt drawing.chart (2 + 2 * y) (2 * x) = drawing.leftMark x y := by
  refine h.charAt_chart (.content y) ((drawing.alternates_content y).getD_even ?_) ?_
  · intro hout
    by_contra hmark
    have := h.le_of_leftEdge (leftEdge_of_leftMark hmark)
    rw [h.extent, surplus] at hout
    omega
  · exact fun hmark => ⟨x, .inl (leftEdge_of_leftMark hmark)⟩

theorem Roomy.charAt_cellMark (h : drawing.Roomy size) (x y : Nat) :
    charAt drawing.chart (2 + 2 * y) (2 * x + 1) = drawing.cellMark x y := by
  refine h.charAt_chart (.content y) ((drawing.alternates_content y).getD_odd ?_) ?_
  · intro hout
    by_contra hmark
    have := h.le_of_cellMark hmark
    rw [h.extent, surplus] at hout
    omega
  · exact fun hmark => ⟨x, .inr hmark⟩

/-- A line of the chart is not the line that ends it. -/
theorem text_ne_end (line : ChartLine) : drawing.text line ≠ "---" := by
  have heven : ∃ width, (drawing.text line).length = 2 * width := by
    cases line with
    | margin => exact ⟨0, rfl⟩
    | border y => exact ⟨_, (drawing.alternates_border y).length⟩
    | content y => exact ⟨_, (drawing.alternates_content y).length⟩
  intro hend
  obtain ⟨width, hwidth⟩ := heven
  rw [hend] at hwidth
  have hthree : "---".length = 3 := by decide
  omega

end Drawing

/-! ### The text -/

/-- The lines of a text above the line that ends a chart. -/
def chartLines (output : String) : List String :=
  (Text.lines output).takeWhile fun line => line ≠ "---"

/-- The drawing of a grid. -/
def drawingOf (grid : Grid) (options : RenderOptions) : Drawing :=
  ⟨grid, crossColours grid, separatorOf options⟩

variable {pattern : Pattern} {options : RenderOptions} {grid : Grid}

theorem separator_drawingOf (grid : Grid) (options : RenderOptions) :
    (drawingOf grid options).separator = ' ' ∨ (drawingOf grid options).separator = delimiter := by
  simp only [drawingOf, separatorOf]
  split <;> simp

theorem roomy_drawingOf (hp : pattern.Made) (options : RenderOptions)
    (hg : Grid.ofPattern pattern (pattern.size + surplus) = .ok grid) :
    (drawingOf grid options).Roomy pattern.size where
  extent := Grid.extent_ofPattern hg
  blank _ _ hout := Grid.look_eq_blank_of_size_lt hp hg (by simp [surplus]) hout
  separator := separator_drawingOf grid options

/-- A chart is followed by the line that ends it, and by a text in which the options have no
part. -/
theorem exists_below (pattern : Pattern) (grid : Grid) :
    ∃ below, ∀ options, wholeText pattern options grid =
      Text.unlines ((drawingOf grid options).chart ++ ["---"]) ++ below := by
  refine ⟨Text.unlines (legend pattern (crossColours grid) ++
    (warnings grid (crossColours grid)).summary.map warningLine), fun options => ?_⟩
  rw [← Text.unlines_append, Drawing.chart, List.append_assoc _ [""], ← List.append_assoc]
  rfl

theorem exists_wholeText_eq (pattern : Pattern) (options : RenderOptions) (grid : Grid) :
    ∃ rest, wholeText pattern options grid =
      Text.unlines ((drawingOf grid options).shownLines.map (drawingOf grid options).text ++
        ["", "---"]) ++ rest := by
  obtain ⟨below, hbelow⟩ := exists_below pattern grid
  refine ⟨below, (hbelow options).trans ?_⟩
  rw [Drawing.chart, List.append_assoc]
  rfl

section Lines

variable {drawing : Drawing} (hs : drawing.separator = ' ' ∨ drawing.separator = delimiter)
  (below : String)
include hs

/-- The lines of a text that begins with a chart. -/
theorem lines_of_chart :
    Text.lines (Text.unlines (drawing.chart ++ ["---"]) ++ below) =
      drawing.chart ++ ["---"] ++ Text.lines below := by
  refine Text.lines_unlines_append (fun line hl => ?_) below
  simp only [Drawing.chart, List.append_assoc, List.mem_append, List.mem_map, List.mem_cons,
    List.not_mem_nil, or_false, List.singleton_append] at hl
  rcases hl with ⟨shown, _, rfl⟩ | rfl | rfl
  · exact Drawing.isLine_text hs shown
  · exact ⟨by decide, by decide⟩
  · exact ⟨by decide, by decide⟩

theorem chartLines_of_chart :
    chartLines (Text.unlines (drawing.chart ++ ["---"]) ++ below) = drawing.chart := by
  have hother : ∀ line ∈ drawing.chart, decide (line ≠ "---") = true := by
    intro line hl
    rw [decide_eq_true_iff]
    rcases List.mem_append.mp hl with hl | hl
    · obtain ⟨shown, _, rfl⟩ := List.mem_map.mp hl
      exact Drawing.text_ne_end shown
    · rw [List.mem_singleton.mp hl]
      decide
  rw [chartLines, lines_of_chart hs, List.append_assoc, List.takeWhile_append_of_pos hother]
  simp

end Lines

theorem chartLines_wholeText (hp : pattern.Made) (options : RenderOptions)
    (hg : Grid.ofPattern pattern (pattern.size + surplus) = .ok grid) :
    chartLines (wholeText pattern options grid) = (drawingOf grid options).chart := by
  obtain ⟨below, hbelow⟩ := exists_below pattern grid
  rw [hbelow options, chartLines_of_chart (roomy_drawingOf hp options hg).separator]

/-- A text chart shows every mark of the grid in its place, and no line with a mark is left out.
Above the line that ends the chart are the lines up to the last one with a mark, one further
line of the grid, and an empty line. If there is no mark, there is the empty line alone. -/
theorem render_shows_every_mark (hp : pattern.Made) {output : String}
    (h : render pattern options = .ok output) :
    ∃ grid, Grid.ofPattern pattern (pattern.size + 3) = .ok grid ∧ grid.extent = pattern.size + 3 ∧
      ∃ chart rest, output = Text.unlines (chart ++ ["", "---"]) ++ rest ∧
        (∀ line ∈ chart, '\n' ∉ line.toList) ∧
        ((∀ i, ¬ (drawingOf grid options).MarkOn i) → chart = []) ∧
        ((∃ i, (drawingOf grid options).MarkOn i) →
          ∃ last, IsGreatest {i | (drawingOf grid options).MarkOn i} last ∧
            (drawingOf grid options).Shows last chart) := by
  obtain ⟨grid, hg, _, rfl⟩ := render_eq_ok_iff.mp h
  obtain ⟨rest, hrest⟩ := exists_wholeText_eq pattern options grid
  have hroomy := roomy_drawingOf hp options hg
  refine ⟨grid, hg, Grid.extent_ofPattern hg, _, rest, hrest, ?_, ?_, fun hany => ?_⟩
  · intro line hline
    obtain ⟨shown, _, rfl⟩ := List.mem_map.mp hline
    exact (hroomy.isLine_text shown).1
  · intro hnone
    rw [hroomy.shownLines_eq_nil hnone, List.map_nil]
  · obtain ⟨last, hlast⟩ := hroomy.exists_last hany
    exact ⟨last, hlast, hroomy.shows hlast⟩

/-- The lower and the right side of the only position of a chart, and a diagonal in it. -/
def farSides : List Action :=
  let palette : Palette := Std.ExtTreeMap.empty.insert 'a' ⟨'a', "red", "red"⟩
  [⟨palette, some .bottomEdge, ["a"], ⟨0, 0⟩⟩, ⟨palette, some .rightEdge, ["a"], ⟨0, 0⟩⟩,
    ⟨palette, some .diagonalSlash, ["a"], ⟨0, 0⟩⟩]

/-- Both sides are drawn beyond the position, and one more line below them. -/
theorem farSides_shown :
    ∃ pattern output, patternOfActions farSides = .ok pattern ∧
      render pattern .default = .ok output ∧
      ∃ chart rest, output = Text.unlines (chart ++ ["", "---"]) ++ rest ∧ chart.length = 7 ∧
        (∃ line, chart[5]? = some line ∧ line.toList[3]? = some '-') ∧
        ∃ line, chart[4]? = some line ∧ line.toList[3]? = some '/' ∧
          line.toList[4]? = some '|' := by
  have hmap : (patternOfActions farSides).map (fun p => (p.size, p.outline)) =
      .ok (1, [(⟨"red", .bottomEdge⟩, [⟨1, 1⟩]), (⟨"red", .rightEdge⟩, [⟨1, 1⟩]),
        (⟨"red", .diagonalSlash⟩, [⟨1, 1⟩])]) := by
    decide +kernel
  obtain ⟨pattern, hp, hparts⟩ := map_eq_ok_iff.mp hmap
  obtain ⟨hsize, houtline⟩ := Prod.mk.inj hparts
  have hmade : pattern.Made := .painted hp
  have hfree : ¬ pattern.HasConflict := by
    rintro ⟨x, y, _, _, hconf⟩
    simp [Pattern.Conflict, Pattern.Straight, Pattern.stitched_iff_outline, houtline] at hconf
  have hrender : ∃ output, render pattern .default = .ok output :=
    (exists_render_eq_ok_iff hmade (by omega)).mpr hfree
  obtain ⟨output, hout⟩ := hrender
  obtain ⟨grid, hg, hextent, chart, rest, hrest, _, _, hmarked⟩ :=
    render_shows_every_mark hmade hout
  have hslot (mode : StitchMode) :
      ((grid.look 1 1).slot mode).isSome ↔ pattern.Stitched 1 1 mode :=
    Grid.isSome_slot_iff hmade hg (by omega) (by omega) mode
  simp only [Pattern.stitched_iff_outline, houtline] at hslot
  have htop : grid.topEdge 1 2 = true := by
    have hbottom : (grid.look 1 1).bottom.isSome := (hslot .bottomEdge).mpr (by decide)
    simp [Grid.topEdge, Grid.above, hbottom]
  have hleft : grid.leftEdge 2 1 = true := by
    have hright : (grid.look 1 1).right.isSome := (hslot .rightEdge).mpr (by decide)
    simp [Grid.leftEdge, Grid.before, hright]
  have hcell (colours : List String) : glyph colours (grid.look 1 1) = '/' := by
    have hcross : ¬ (grid.look 1 1).cross.isSome := (hslot .crossStitch).not.mpr (by decide)
    have hback : ¬ (grid.look 1 1).backslash.isSome :=
      (hslot .diagonalBackslash).not.mpr (by decide)
    have hslash : (grid.look 1 1).slash.isSome := (hslot .diagonalSlash).mpr (by decide)
    rw [glyph, Option.not_isSome_iff_eq_none.mp hcross]
    show lineGlyph _ = _
    rw [lineGlyph, if_neg hback, if_pos hslash]
  have hfive : (drawingOf grid .default).MarkOn 5 := ⟨.border 2, rfl, 1, htop⟩
  obtain ⟨last, hlast, hshows⟩ := hmarked ⟨5, hfive⟩
  have hle : last ≤ 5 := by
    have := (roomy_drawingOf hmade .default hg).index_le hlast.1
    omega
  have hge : 5 ≤ last := hlast.2 hfive
  have hlength := hshows.length
  have hrow : ∀ i < 7, ∃ line, chart[i]? = some line := fun i hi =>
    ⟨_, List.getElem?_eq_getElem (by omega)⟩
  obtain ⟨border, hborder⟩ := hrow 5 (by omega)
  obtain ⟨content, hcontent⟩ := hrow 4 (by omega)
  refine ⟨pattern, output, hp, hout, chart, rest, hrest, by omega, ⟨border, hborder, ?_⟩,
    content, hcontent, ?_, ?_⟩
  · have hchar := (hshows.border 2 border hborder).odd 1 (by simp [drawingOf, hextent])
    rwa [drawingOf, htop] at hchar
  · have hchar := (hshows.content 1 content hcontent).odd 1 (by simp [drawingOf, hextent])
    rwa [Drawing.cellMark, drawingOf, hcell] at hchar
  · have hchar := (hshows.content 1 content hcontent).even 2 (by simp [drawingOf, hextent, hsize])
    rwa [drawingOf, hleft] at hchar

end CrossStitch.Ascii
