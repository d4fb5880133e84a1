import CrossStitch.Proofs.Render.TextChart

/-! Edges. An edge has a position on either side and may be stitched from both. A text chart
draws only the upper and the left side of a position, and still shows every edge: charts that
differ in nothing but their edges have the same text just when they have the same edges,
whichever side these are stitched from. -/

namespace CrossStitch

/-- An edge, named for the position below it or for the one to its right. -/
inductive Edge
  | above (x y : Nat)
  | leftOf (x y : Nat)
  deriving DecidableEq, Repr

/-- The edge that is stitched at a position in a mode. -/
def StitchMode.edge? (mode : StitchMode) (x y : Nat) : Option Edge :=
  match mode with
  | .topEdge => some (.above x y)
  | .bottomEdge => some (.above x (y + 1))
  | .leftEdge => some (.leftOf x y)
  | .rightEdge => some (.leftOf (x + 1) y)
  | _ => none

/-- The edges stitched at the positions up to the size. -/
def Pattern.edges (pattern : Pattern) : Set Edge :=
  {edge | ∃ x y mode, x ≤ pattern.size ∧ y ≤ pattern.size ∧ pattern.Stitched x y mode ∧
    mode.edge? x y = some edge}

/-- Nothing is stitched at other positions. -/
theorem Pattern.Made.mem_edges_iff {pattern : Pattern} (hp : pattern.Made)
    (hsize : pattern.size < 2 ^ 31) {edge : Edge} :
    edge ∈ pattern.edges ↔ ∃ x y mode, pattern.Stitched x y mode ∧ mode.edge? x y = some edge := by
  constructor
  · rintro ⟨x, y, mode, _, _, hs, hedge⟩
    exact ⟨x, y, mode, hs, hedge⟩
  · rintro ⟨x, y, mode, hs, hedge⟩
    have hle := hp.le_size_of_stitched hsize hs
    exact ⟨x, y, mode, hle.1, hle.2, hs, hedge⟩

/-- A pattern with one stitch, on an edge, has this edge and no other. -/
theorem Pattern.Made.edges_of_stitched_iff {pattern : Pattern} (hp : pattern.Made)
    (hsize : pattern.size < 2 ^ 31) {x y : Nat} {mode : StitchMode} {edge : Edge}
    (h : ∀ x' y' mode', pattern.Stitched x' y' mode' ↔ mode' = mode ∧ x' = x ∧ y' = y)
    (hedge : mode.edge? x y = some edge) : pattern.edges = {edge} := by
  ext other
  rw [hp.mem_edges_iff hsize]
  constructor
  · rintro ⟨x', y', mode', hs, hother⟩
    obtain ⟨rfl, rfl, rfl⟩ := (h x' y' mode').mp hs
    exact Option.some.inj (hother.symm.trans hedge)
  · rintro rfl
    exact ⟨x, y, mode, (h x y mode).mpr ⟨rfl, rfl, rfl⟩, hedge⟩

theorem Grid.bottomEdge_eq_topEdge (grid : Grid) (x y : Nat) :
    grid.bottomEdge x y = grid.topEdge x (y + 1) :=
  Bool.or_comm _ _

theorem Grid.rightEdge_eq_leftEdge (grid : Grid) (x y : Nat) :
    grid.rightEdge x y = grid.leftEdge (x + 1) y :=
  Bool.or_comm _ _

section Drawn

variable {pattern : Pattern} {extent : Nat} {grid : Grid}

theorem Grid.slot_eq_none (hp : pattern.Made) (h : ofPattern pattern extent = .ok grid)
    (hsize : pattern.size < extent) {x y : Nat} {mode : StitchMode}
    (hs : ¬ pattern.Stitched x y mode) : (grid.look x y).slot mode = none := by
  rwa [← Option.not_isSome_iff_eq_none, isSome_slot_iff_of_size_lt hp h hsize]

theorem Grid.topEdge_iff (hp : pattern.Made) (h : ofPattern pattern extent = .ok grid)
    (hsize : pattern.size < extent) (x y : Nat) :
    grid.topEdge x y = true ↔ .above x y ∈ pattern.edges := by
  have hslot := isSome_slot_iff_of_size_lt hp h hsize
  have hlarge := lt_of_ofPattern h
  rw [topEdge, Bool.or_eq_true, hp.mem_edges_iff (by omega)]
  constructor
  · rintro (hs | hs)
    · exact ⟨x, y, .topEdge, (hslot x y .topEdge).mp hs, rfl⟩
    · cases y with
      | zero => cases hs
      | succ y => exact ⟨x, y, .bottomEdge, (hslot x y .bottomEdge).mp hs, rfl⟩
  · rintro ⟨x', y', mode, hs, hedge⟩
    cases mode <;> cases hedge
    · exact .inl ((hslot x y .topEdge).mpr hs)
    · exact .inr ((hslot x y' .bottomEdge).mpr hs)

theorem Grid.leftEdge_iff (hp : pattern.Made) (h : ofPattern pattern extent = .ok grid)
    (hsize : pattern.size < extent) (x y : Nat) :
    grid.leftEdge x y = true ↔ .leftOf x y ∈ pattern.edges := by
  have hslot := isSome_slot_iff_of_size_lt hp h hsize
  have hlarge := lt_of_ofPattern h
  rw [leftEdge, Bool.or_eq_true, hp.mem_edges_iff (by omega)]
  constructor
  · rintro (hs | hs)
    · exact ⟨x, y, .leftEdge, (hslot x y .leftEdge).mp hs, rfl⟩
    · cases x with
      | zero => cases hs
      | succ x => exact ⟨x, y, .rightEdge, (hslot x y .rightEdge).mp hs, rfl⟩
  · rintro ⟨x', y', mode, hs, hedge⟩
    cases mode <;> cases hedge
    · exact .inl ((hslot x y .leftEdge).mpr hs)
    · exact .inr ((hslot x' y .rightEdge).mpr hs)

end Drawn

namespace Ascii

/-! ### Drawings that look the same -/

theorem Drawing.chart_congr {first second : Drawing}
    (hextent : first.grid.extent = second.grid.extent) (hsep : first.separator = second.separator)
    (htop : ∀ x y, first.grid.topEdge x y = second.grid.topEdge x y)
    (hleft : ∀ x y, first.grid.leftEdge x y = second.grid.leftEdge x y)
    (hcell : ∀ x y, first.cellMark x y = second.cellMark x y) : first.chart = second.chart := by
  have htext : first.text = second.text := by
    funext line
    cases line <;> simp only [text, topMark, leftMark, hextent, hsep, htop, hleft, hcell]
  have hblank : first.isBlank = second.isBlank := by
    funext line
    rw [isBlank, isBlank, htext]
  have hlines : first.lines = second.lines := by
    rw [lines, lines, hextent]
  rw [chart, chart, shownLines, shownLines, htext, hblank, hlines]

theorem crossColours_congr {first second : Grid} (hextent : first.extent = second.extent)
    (hcross : ∀ x y, (first.look x y).cross = (second.look x y).cross) :
    crossColours first = crossColours second := by
  simp only [crossColours, Grid.collect, hextent, hcross]

theorem glyph_congr {colours : List String} {first second : Stitches}
    (h : ∀ mode : StitchMode, mode.edge? 0 0 = none → first.slot mode = second.slot mode) :
    glyph colours first = glyph colours second := by
  have hcross : first.cross = second.cross := h .crossStitch rfl
  have hhorizontal : first.horizontal = second.horizontal := h .horizontalLine rfl
  have hvertical : first.vertical = second.vertical := h .verticalLine rfl
  have hbackslash : first.backslash = second.backslash := h .diagonalBackslash rfl
  have hslash : first.slash = second.slash := h .diagonalSlash rfl
  simp only [glyph, lineGlyph, hcross, hhorizontal, hvertical, hbackslash, hslash]

/-! ### Charts and edges -/

theorem Drawing.topEdge_eq_of_topMark_eq {first second : Drawing} {x y : Nat}
    (h : first.topMark x y = second.topMark x y) :
    first.grid.topEdge x y = second.grid.topEdge x y := by
  rw [Bool.eq_iff_iff, ← isInk_topMark_iff, ← isInk_topMark_iff, h]

theorem Drawing.leftEdge_eq_of_leftMark_eq {first second : Drawing} {x y : Nat}
    (h : first.leftMark x y = second.leftMark x y) :
    first.grid.leftEdge x y = second.grid.leftEdge x y := by
  rw [Bool.eq_iff_iff, ← isInk_leftMark_iff, ← isInk_leftMark_iff, h]

section Charts

variable {first second : Pattern} {grid grid' : Grid} {options : RenderOptions}

theorem edges_eq_of_chart_eq (hp : first.Made) (hp' : second.Made)
    (hg : Grid.ofPattern first (first.size + surplus) = .ok grid)
    (hg' : Grid.ofPattern second (second.size + surplus) = .ok grid')
    (h : (drawingOf grid options).chart = (drawingOf grid' options).chart) :
    first.edges = second.edges := by
  have hroomy := roomy_drawingOf hp options hg
  have hroomy' := roomy_drawingOf hp' options hg'
  ext edge
  cases edge with
  | above x y =>
    have hmark : (drawingOf grid options).topMark x y = (drawingOf grid' options).topMark x y := by
      rw [← hroomy.charAt_topMark, ← hroomy'.charAt_topMark, h]
    have hedge : grid.topEdge x y = grid'.topEdge x y := Drawing.topEdge_eq_of_topMark_eq hmark
    rw [← Grid.topEdge_iff hp hg (by simp [surplus]),
      ← Grid.topEdge_iff hp' hg' (by simp [surplus]), hedge]
  | leftOf x y =>
    have hmark : (drawingOf grid options).leftMark x y =
        (drawingOf grid' options).leftMark x y := by
      rw [← hroomy.charAt_leftMark, ← hroomy'.charAt_leftMark, h]
    have hedge : grid.leftEdge x y = grid'.leftEdge x y := Drawing.leftEdge_eq_of_leftMark_eq hmark
    rw [← Grid.leftEdge_iff hp hg (by simp [surplus]),
      ← Grid.leftEdge_iff hp' hg' (by simp [surplus]), hedge]

theorem chart_eq_of_edges_eq (hp : first.Made) (hp' : second.Made)
    (hsize : first.size = second.size)
    (hg : Grid.ofPattern first (first.size + surplus) = .ok grid)
    (hg' : Grid.ofPattern second (second.size + surplus) = .ok grid')
    (hsame : ∀ (x y : Nat) (mode : StitchMode), mode.edge? x y = none →
      (grid.look x y).slot mode = (grid'.look x y).slot mode)
    (h : first.edges = second.edges) :
    (drawingOf grid options).chart = (drawingOf grid' options).chart := by
  have hextent : grid.extent = grid'.extent := by
    rw [Grid.extent_ofPattern hg, Grid.extent_ofPattern hg', hsize]
  have hnone {mode : StitchMode} {x y : Nat} (hm : mode.edge? 0 0 = none) :
      mode.edge? x y = none := by
    cases mode <;> simp [StitchMode.edge?] at hm ⊢
  have hcolours : crossColours grid = crossColours grid' :=
    crossColours_congr hextent fun x y => hsame x y .crossStitch rfl
  refine @Drawing.chart_congr (drawingOf grid options) (drawingOf grid' options) hextent rfl
    ?_ ?_ ?_
  · intro x y
    rw [Bool.eq_iff_iff]
    exact (Grid.topEdge_iff hp hg (by simp [surplus]) x y).trans
      (h ▸ (Grid.topEdge_iff hp' hg' (by simp [surplus]) x y).symm)
  · intro x y
    rw [Bool.eq_iff_iff]
    exact (Grid.leftEdge_iff hp hg (by simp [surplus]) x y).trans
      (h ▸ (Grid.leftEdge_iff hp' hg' (by simp [surplus]) x y).symm)
  · intro x y
    rw [Drawing.cellMark, Drawing.cellMark, drawingOf, drawingOf, hcolours]
    exact glyph_congr fun mode hm => hsame x y mode (hnone hm)

end Charts

/-- An edge is the same from both of its sides. And charts with the same size that differ in
nothing but their edges have the same text if and only if they have the same edges. -/
theorem chart_eq_iff_same_edges :
    (∀ (grid : Grid) (x y : Nat), grid.bottomEdge x y = grid.topEdge x (y + 1) ∧
      grid.rightEdge x y = grid.leftEdge (x + 1) y) ∧
    ∀ {first second : Pattern}, first.Made → second.Made → first.size = second.size →
      ∀ {options : RenderOptions} {output output' : String}, render first options = .ok output →
        render second options = .ok output' →
      ∀ {grid grid' : Grid}, Grid.ofPattern first (first.size + 3) = .ok grid →
        Grid.ofPattern second (second.size + 3) = .ok grid' →
        (∀ (x y : Nat) (mode : StitchMode), mode.edge? x y = none →
          (grid.look x y).slot mode = (grid'.look x y).slot mode) →
        (chartLines output = chartLines output' ↔ first.edges = second.edges) := by
  refine ⟨fun grid x y => ⟨grid.bottomEdge_eq_topEdge x y, grid.rightEdge_eq_leftEdge x y⟩, ?_⟩
  intro first second hp hp' hsize options output output' h h' grid grid' hg hg' hsame
  obtain ⟨drawn, hdrawn, _, rfl⟩ := render_eq_ok_iff.mp h
  obtain ⟨drawn', hdrawn', _, rfl⟩ := render_eq_ok_iff.mp h'
  cases hg.symm.trans hdrawn
  cases hg'.symm.trans hdrawn'
  rw [chartLines_wholeText hp options hg, chartLines_wholeText hp' options hg']
  exact ⟨edges_eq_of_chart_eq hp hp' hg hg', chart_eq_of_edges_eq hp hp' hsize hg hg' hsame⟩

/-- One edge between two positions, stitched from above it or from below it. -/
def oneEdge (mode : StitchMode) (rows : List String) : List Action :=
  [⟨(Std.ExtTreeMap.empty.insert 'a' ⟨'a', "red", "red"⟩).insert '-' ⟨'-', noColour, noColour⟩,
    some mode, rows, ⟨0, 0⟩⟩]

theorem oneEdge_from_either_side :
    ∃ fromAbove fromBelow output output',
      patternOfActions (oneEdge .bottomEdge ["a", "-"]) = .ok fromAbove ∧
      patternOfActions (oneEdge .topEdge ["-", "a"]) = .ok fromBelow ∧
      render fromAbove .default = .ok output ∧ render fromBelow .default = .ok output' ∧
      .above 1 2 ∈ fromAbove.edges ∧ chartLines output = chartLines output' := by
  have hmap : (patternOfActions (oneEdge .bottomEdge ["a", "-"])).map
      (fun p => (p.size, p.outline)) = .ok (2, [(⟨"red", .bottomEdge⟩, [⟨1, 1⟩])]) := by
    decide +kernel
  have hmap' : (patternOfActions (oneEdge .topEdge ["-", "a"])).map (fun p => (p.size, p.outline)) =
      .ok (2, [(⟨"red", .topEdge⟩, [⟨1, 2⟩])]) := by
    decide +kernel
  obtain ⟨first, hp, hparts⟩ := map_eq_ok_iff.mp hmap
  obtain ⟨hsize, houtline⟩ := Prod.mk.inj hparts
  obtain ⟨second, hp', hparts'⟩ := map_eq_ok_iff.mp hmap'
  obtain ⟨hsize', houtline'⟩ := Prod.mk.inj hparts'
  have hmade : first.Made := .painted hp
  have hmade' : second.Made := .painted hp'
  have hone : (1 : Int32).toInt = 1 := rfl
  have htwo : (2 : Int32).toInt = 2 := rfl
  have hstitched : ∀ x y mode, first.Stitched x y mode ↔ mode = .bottomEdge ∧ x = 1 ∧ y = 1 := by
    intro x y mode
    rw [Pattern.stitched_iff_outline, houtline]
    simp only [List.mem_singleton, exists_eq_left, hone]
    grind
  have hstitched' : ∀ x y mode, second.Stitched x y mode ↔ mode = .topEdge ∧ x = 1 ∧ y = 2 := by
    intro x y mode
    rw [Pattern.stitched_iff_outline, houtline']
    simp only [List.mem_singleton, exists_eq_left, hone, htwo]
    grind
  have hdrawn : ∃ output, render first .default = .ok output := by
    rw [exists_render_eq_ok_iff hmade (by omega)]
    simp [Pattern.HasConflict, Pattern.Conflict, Pattern.Straight, hstitched]
  have hdrawn' : ∃ output, render second .default = .ok output := by
    rw [exists_render_eq_ok_iff hmade' (by omega)]
    simp [Pattern.HasConflict, Pattern.Conflict, Pattern.Straight, hstitched']
  obtain ⟨output, hout⟩ := hdrawn
  obtain ⟨output', hout'⟩ := hdrawn'
  obtain ⟨grid, hg, _⟩ := render_eq_ok_iff.mp hout
  obtain ⟨grid', hg', _⟩ := render_eq_ok_iff.mp hout'
  have hedges : first.edges = {.above 1 2} :=
    hmade.edges_of_stitched_iff (by omega) hstitched rfl
  have hedges' : second.edges = {.above 1 2} :=
    hmade'.edges_of_stitched_iff (by omega) hstitched' rfl
  -- besides the edge there is nothing on either grid
  have hbare : ∀ (x y : Nat) (mode : StitchMode), mode.edge? x y = none →
      (grid.look x y).slot mode = (grid'.look x y).slot mode := by
    intro x y mode hmode
    rw [Grid.slot_eq_none hmade hg (by simp [surplus]),
      Grid.slot_eq_none hmade' hg' (by simp [surplus])]
    · rintro hs
      cases ((hstitched' x y mode).mp hs).1
      cases hmode
    · rintro hs
      cases ((hstitched x y mode).mp hs).1
      cases hmode
  refine ⟨first, second, output, output', hp, hp', hout, hout', by rw [hedges]; rfl, ?_⟩
  exact (chart_eq_iff_same_edges.2 hmade hmade' (hsize.trans hsize'.symm) hout hout' hg hg'
    hbare).mpr (hedges.trans hedges'.symm)

end Ascii

end CrossStitch
