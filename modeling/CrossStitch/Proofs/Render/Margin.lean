import CrossStitch.Proofs.Action.Source
import CrossStitch.Proofs.Render.Agreement

/-! The margin of a page. Row 0 and column 0 are there for the numbers of the columns and rows, yet
nothing keeps an offset from moving a drawing onto them. Stitches of most modes only change how a
cell of the margin looks. A line is the content of its cell, and where the margin has one the
number is lost. This cannot happen if no drawing is moved to the left or up. -/

namespace CrossStitch

/-- The modes that draw a line in a cell. -/
def StitchMode.isLine : StitchMode → Bool
  | .horizontalLine | .verticalLine | .diagonalBackslash | .diagonalSlash => true
  | _ => false

/-- The actions stitch a line of some colour at a position of the chart. -/
def LineAt (actions : List Action) (x y : Int) : Prop :=
  ∃ strand : Strand, strand.mode.isLine = true ∧ strand.colour ≠ noColour ∧
    StitchedAt actions strand x y

/-- Of the drawings that are not moved to the left or up, none has a line in the margin. -/
theorem not_lineAt_margin {actions : List Action}
    (h : ∀ action ∈ actions, 0 ≤ action.offset.x.toInt ∧ 0 ≤ action.offset.y.toInt) {x y : Int}
    (hmargin : x = 0 ∨ y = 0) : ¬ LineAt actions x y := by
  rintro ⟨strand, _, _, action, ha, _, symbol, _, _, hx, hy⟩
  have hoffset := h action ha
  omega

/-! ### Positions of the pattern -/

theorem stitched_iff_exists_dab {actions : List Action} {pattern : Pattern}
    (h : patternOfActions actions = .ok pattern) {x y : Nat} {mode : StitchMode} :
    pattern.Stitched x y mode ↔ ∃ dab ∈ actions.flatMap Action.dabs, dab.IsOn x y mode := by
  have hp : pattern.Made := .painted h
  rw [hp.stitched_iff, ← isSome_lastColour, ← lastColour_strokes h, isSome_lastColour]
  simp

/-- A pattern has a stitch at a position if the actions stitch it there. -/
theorem stitched_iff_stitchedAt {actions : List Action} {pattern : Pattern}
    (h : patternOfActions actions = .ok pattern) (hsize : pattern.size < 2 ^ 31) {x y : Nat}
    {mode : StitchMode} :
    pattern.Stitched x y mode ↔
      ∃ colour, colour ≠ noColour ∧ StitchedAt actions ⟨colour, mode⟩ x y := by
  rw [stitched_iff_exists_dab h]
  constructor
  · rintro ⟨⟨cell, colour, mode⟩, hd, hx, hy, rfl⟩
    obtain ⟨action, _, ha⟩ := List.mem_flatMap.mp hd
    have hcolour : colour ≠ noColour := colour_ne_of_mem_dabs ha
    refine ⟨colour, hcolour, (cellsOf_exact_of_size h hsize hcolour x y).mpr ⟨cell, ?_, hx, hy⟩⟩
    exact (mem_cellsOf_iff_mem_dabs h).mpr hd
  · rintro ⟨colour, hcolour, hs⟩
    obtain ⟨cell, hc, hx, hy⟩ := (cellsOf_exact_of_size h hsize hcolour x y).mp hs
    exact ⟨_, (mem_cellsOf_iff_mem_dabs h).mp hc, hx, hy, rfl⟩

theorem lineAt_iff_stitched {actions : List Action} {pattern : Pattern}
    (h : patternOfActions actions = .ok pattern) (hsize : pattern.size < 2 ^ 31) {x y : Nat} :
    LineAt actions x y ↔ ∃ mode : StitchMode, mode.isLine = true ∧ pattern.Stitched x y mode := by
  simp only [stitched_iff_stitchedAt h hsize]
  constructor
  · rintro ⟨⟨colour, mode⟩, hline, hcolour, hs⟩
    exact ⟨mode, hline, colour, hcolour, hs⟩
  · rintro ⟨mode, hline, colour, hcolour, hs⟩
    exact ⟨⟨colour, mode⟩, hline, hcolour, hs⟩

namespace Html

theorem lineMarkup?_eq_none_iff {stitches : Stitches} :
    lineMarkup? stitches = none ↔
      ∀ mode : StitchMode, mode.isLine = true → stitches.slot mode = none := by
  constructor
  · intro h mode hline
    obtain ⟨_, _, _, _, _, horizontal, vertical, backslash, slash⟩ := stitches
    cases horizontal <;> cases vertical <;> cases backslash <;> cases slash <;> cases h
    cases mode <;> first | rfl | cases hline
  · intro h
    have hh : stitches.horizontal = none := h .horizontalLine rfl
    have hv : stitches.vertical = none := h .verticalLine rfl
    have hb : stitches.backslash = none := h .diagonalBackslash rfl
    have hs : stitches.slash = none := h .diagonalSlash rfl
    rw [lineMarkup?, hh, hv, hb, hs]

/-! ### Cells of the margin -/

/-- The cell of a position on a page. -/
def PageChart.cellAt (page : PageChart) (x y : Nat) : Option PageCell :=
  page.cells[y * page.size + x]?

/-- A cell has its label unless there is a line, and then it has the markup of the line. -/
structure Holds (cell : PageCell) (label : String) (lined : Prop) : Prop where
  label : cell.value = label ↔ ¬ lined
  line : (∃ kind : LineKind, kind.IsMarkup cell.value) ↔ lined

theorem holds_pageCell {actions : List Action} {pattern : Pattern}
    (h : patternOfActions actions = .ok pattern) {grid : Grid}
    (hg : Grid.ofPattern pattern (pattern.size + 1) = .ok grid) (width x y : Nat) :
    Holds (pageCell grid width x y) (marginLabel x y) (LineAt actions x y) := by
  have hp : pattern.Made := .painted h
  have hlarge := Grid.lt_of_ofPattern hg
  have hlined : LineAt actions x y ↔ lineMarkup? (grid.look x y) ≠ none := by
    rw [lineAt_iff_stitched h (by omega), Ne, lineMarkup?_eq_none_iff]
    simp only [not_forall, ← Option.isSome_iff_ne_none, exists_prop,
      Grid.isSome_slot_iff_of_size_lt hp hg (Nat.lt_succ_self _)]
  have hlabel := not_mem_marginLabel x y
  have hvalue : (pageCell grid width x y).value =
      (lineMarkup? (grid.look x y)).getD (marginLabel x y) := rfl
  rw [hlined]
  constructor
  · rw [hvalue, not_not]
    cases hm : lineMarkup? (grid.look x y) with
    | none => simp
    | some text =>
      obtain ⟨kind, _, hmarkup⟩ := isMarkup_of_lineMarkup? hm
      simp only [Option.getD_some, reduceCtorEq, iff_false]
      rintro rfl
      exact hlabel hmarkup.mem
  · rw [hvalue]
    cases hm : lineMarkup? (grid.look x y) with
    | none =>
      simp only [Option.getD_none, ne_eq, not_true, iff_false]
      rintro ⟨kind, hmarkup⟩
      exact hlabel hmarkup.mem
    | some text =>
      obtain ⟨kind, _, hmarkup⟩ := isMarkup_of_lineMarkup? hm
      simpa using ⟨kind, hmarkup⟩

/-- A page has each number of the margin at its place, but for those in the place of a line. If no
drawing is moved to the left or up, it has all of them. -/
theorem margin_labels {context : ChartContext} {source : String} {pattern : Pattern}
    (hp : parsePattern context source = .ok pattern) {page : PageChart}
    (hc : chart pattern = .ok page) :
    ∃ actions, parseActions context source = .ok actions ∧
      (∃ corner, page.cellAt 0 0 = some corner ∧ Holds corner "" (LineAt actions 0 0)) ∧
      (∀ k, 1 ≤ k → k ≤ pattern.size → ∃ above beside,
        page.cellAt k 0 = some above ∧ Holds above (toString k) (LineAt actions k 0) ∧
        page.cellAt 0 k = some beside ∧ Holds beside (toString k) (LineAt actions 0 k)) ∧
      ((∀ action ∈ actions, 0 ≤ action.offset.x.toInt ∧ 0 ≤ action.offset.y.toInt) →
        ∀ k : Nat, ¬ LineAt actions k 0 ∧ ¬ LineAt actions 0 k) := by
  obtain ⟨actions, hactions, hpattern⟩ := parsePattern_eq_ok_iff.mp hp
  obtain ⟨grid, hg, _, rfl⟩ := chart_eq_ok_iff.mp hc
  have hcell : ∀ x y, x ≤ pattern.size → y ≤ pattern.size → ∃ cell,
      (wholeChart pattern grid).cellAt x y = some cell ∧
        Holds cell (marginLabel x y) (LineAt actions x y) := by
    intro x y hx hy
    exact ⟨_, getElem?_cells hx hy, holds_pageCell hpattern hg _ x y⟩
  refine ⟨actions, hactions, hcell 0 0 (Nat.zero_le _) (Nat.zero_le _), fun k hk hle => ?_,
    fun hoffset k => ⟨not_lineAt_margin hoffset (.inr rfl), not_lineAt_margin hoffset (.inl rfl)⟩⟩
  obtain ⟨k, rfl⟩ := Nat.exists_eq_succ_of_ne_zero (Nat.pos_iff_ne_zero.mp hk)
  obtain ⟨above, ha, habove⟩ := hcell (k + 1) 0 hle (Nat.zero_le _)
  obtain ⟨beside, hb, hbeside⟩ := hcell 0 (k + 1) (Nat.zero_le _) hle
  exact ⟨above, beside, ha, habove, hb, hbeside⟩

/-- Four crosses, of which three are moved to the margin, and a line over the fourth. -/
def crossesOnMargin : List WrittenBlock :=
  BlockKind.palette.write ["a => red"] (by decide) ::
    drawingBlocks .crossStitch ⟨-1, -1⟩ ["aa", "aa"] (by decide) ++
    drawingBlocks .horizontalLine ⟨0, 0⟩ ["a"] (by decide)

theorem crossesOnMargin_labels :
    ∃ pattern page above beside,
      parsePattern (.alone .empty) (writtenText crossesOnMargin) = .ok pattern ∧
      chart pattern = .ok page ∧ pattern.Stitched 1 0 .crossStitch ∧
      pattern.Stitched 0 1 .crossStitch ∧ page.cellAt 1 0 = some above ∧ above.value = "1" ∧
      page.cellAt 0 1 = some beside ∧ beside.value = "1" := by
  have hmap : (patternOfBlocks .empty (crossesOnMargin.map WrittenBlock.block)).map
      (fun p => (p.size, p.outline)) =
        .ok (1, [(⟨"red", .crossStitch⟩, [⟨0, 0⟩, ⟨1, 0⟩, ⟨0, 1⟩, ⟨1, 1⟩]),
          (⟨"red", .horizontalLine⟩, [⟨1, 1⟩])]) := by
    decide +kernel
  obtain ⟨pattern, hblocks, hparts⟩ := map_eq_ok_iff.mp hmap
  obtain ⟨hsize, houtline⟩ := Prod.mk.inj hparts
  have hp : parsePattern (.alone .empty) (writtenText crossesOnMargin) = .ok pattern :=
    parsePattern_writtenText.mpr hblocks
  obtain ⟨actions, hactions, hpattern⟩ := parsePattern_eq_ok_iff.mp hp
  have hfree : ¬ pattern.HasConflict := not_hasConflict_of_straight (by rw [houtline]; decide)
  obtain ⟨page, hpage⟩ := (exists_chart_eq_ok_iff (.painted hpattern) (by omega)).mpr hfree
  obtain ⟨parsed, hparsed, _, hlabels, _⟩ := margin_labels hp hpage
  cases hparsed.symm.trans hactions
  obtain ⟨above, beside, ha, habove, hb, hbeside⟩ := hlabels 1 (Nat.le_refl _) (by omega)
  have hlines : ∀ x y : Nat, LineAt actions x y → x = 1 ∧ y = 1 := by
    intro x y hline
    rw [lineAt_iff_stitched hpattern (by omega)] at hline
    simp only [Pattern.stitched_iff_outline, houtline] at hline
    obtain ⟨mode, hmode, part, hpart, rfl, cell, hcell, hx, hy⟩ := hline
    have hall : ∀ part ∈ [(Strand.mk "red" .crossStitch, [Cell.mk 0 0, ⟨1, 0⟩, ⟨0, 1⟩, ⟨1, 1⟩]),
        (⟨"red", .horizontalLine⟩, [⟨1, 1⟩])], part.1.mode.isLine = true →
          ∀ cell ∈ part.2, cell.x.toInt = 1 ∧ cell.y.toInt = 1 := by decide
    have hat := hall part hpart hmode cell hcell
    omega
  have hbare : ¬ LineAt actions (1 : Nat) (0 : Nat) ∧ ¬ LineAt actions (0 : Nat) (1 : Nat) :=
    ⟨fun h => absurd (hlines 1 0 h) (by decide), fun h => absurd (hlines 0 1 h) (by decide)⟩
  refine ⟨pattern, page, above, beside, hp, hpage, ?_, ?_, ha, habove.label.mpr hbare.1, hb,
    hbeside.label.mpr hbare.2⟩
  · rw [Pattern.stitched_iff_outline, houtline]
    decide
  · rw [Pattern.stitched_iff_outline, houtline]
    decide

/-- Two lines, of which the first is moved to the margin. -/
def lineOnMargin : List WrittenBlock :=
  BlockKind.palette.write ["a => red"] (by decide) ::
    drawingBlocks .horizontalLine ⟨-1, 0⟩ ["aa"] (by decide)

/-- The chart of these lines. -/
def lineOnMarginSource : String :=
  "palette => \x7b\na => red\n\x7d\nmode => \x7b\nhline\n\x7d\noffset => \x7b\n-1x0\n\x7d\n" ++
  "pattern => \x7b\naa\n\x7d\naction => \x7b\ncommit\n\x7d\n"

theorem writtenText_lineOnMargin : writtenText lineOnMargin = lineOnMarginSource := by
  decide +kernel

/-- The line takes the place of the number of the only row. -/
theorem lineOnMargin_hides_label :
    ∃ pattern page cell, parsePattern (.alone .empty) lineOnMarginSource = .ok pattern ∧
      chart pattern = .ok page ∧ pattern.size = 1 ∧ page.cellAt 0 1 = some cell ∧
      (∃ kind : LineKind, kind.IsMarkup cell.value) ∧ cell.value ≠ toString 1 := by
  have hmap : (patternOfBlocks .empty (lineOnMargin.map WrittenBlock.block)).map
      (fun p => (p.size, p.outline)) = .ok (1, [(⟨"red", .horizontalLine⟩, [⟨0, 1⟩, ⟨1, 1⟩])]) := by
    decide +kernel
  obtain ⟨pattern, hblocks, hparts⟩ := map_eq_ok_iff.mp hmap
  obtain ⟨hsize, houtline⟩ := Prod.mk.inj hparts
  have hp : parsePattern (.alone .empty) lineOnMarginSource = .ok pattern := by
    rw [← writtenText_lineOnMargin]
    exact parsePattern_writtenText.mpr hblocks
  obtain ⟨_, _, hpattern⟩ := parsePattern_eq_ok_iff.mp hp
  have hmade : pattern.Made := .painted hpattern
  have hfree : ¬ pattern.HasConflict := not_hasConflict_of_straight (by rw [houtline]; decide)
  obtain ⟨page, hpage⟩ := (exists_chart_eq_ok_iff hmade (by omega)).mpr hfree
  obtain ⟨grid, hg, _, rfl⟩ := chart_eq_ok_iff.mp hpage
  have hline : LineAt _ (0 : Nat) (1 : Nat) := (lineAt_iff_stitched hpattern (by omega)).mpr
    ⟨.horizontalLine, rfl, by rw [Pattern.stitched_iff_outline, houtline]; decide⟩
  have hholds := holds_pageCell hpattern hg (idWidth pattern.size) 0 1
  refine ⟨pattern, _, _, hp, hpage, hsize, getElem?_cells (Nat.zero_le _) (by omega),
    hholds.line.mpr hline, fun hvalue => hholds.label.mp hvalue hline⟩

end Html

end CrossStitch
