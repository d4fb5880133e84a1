import CrossStitch.Proofs.Render.Extent
import CrossStitch.Render.Ascii
import CrossStitch.Render.Html

/-! Which charts cannot be drawn. A text chart and a page are drawn on grids of different
extent and are each given up for reasons of their own, the size first and then lines that
cannot share a cell. Yet of the charts that are small enough for both, one is given up if and
only if the other is. -/

namespace CrossStitch

/-! ### Conflicts -/

/-- A horizontal or vertical line lies at the position. -/
def Pattern.Straight (pattern : Pattern) (x y : Nat) : Prop :=
  pattern.Stitched x y .horizontalLine ∨ pattern.Stitched x y .verticalLine

/-- A diagonal lies at the position together with another line. -/
def Pattern.Conflict (pattern : Pattern) (x y : Nat) : Prop :=
  (pattern.Stitched x y .diagonalBackslash ∨ pattern.Stitched x y .diagonalSlash) ∧
      pattern.Straight x y ∨
    pattern.Stitched x y .diagonalBackslash ∧ pattern.Stitched x y .diagonalSlash

/-- Some position up to the size has a conflict. -/
def Pattern.HasConflict (pattern : Pattern) : Prop :=
  ∃ x y, x ≤ pattern.size ∧ y ≤ pattern.size ∧ pattern.Conflict x y

/-- Row by row from the top, one position comes before another. -/
def Precedes (x y x' y' : Nat) : Prop := y < y' ∨ y = y' ∧ x < x'

/-- The first position with a conflict, row by row from the top. -/
structure Pattern.FirstConflict (pattern : Pattern) (x y : Nat) : Prop where
  x_le : x ≤ pattern.size
  y_le : y ≤ pattern.size
  conflict : pattern.Conflict x y
  first : ∀ x' y', x' ≤ pattern.size → y' ≤ pattern.size → Precedes x' y' x y →
    ¬ pattern.Conflict x' y'

theorem Pattern.FirstConflict.unique {pattern : Pattern} {x y x' y' : Nat}
    (h : pattern.FirstConflict x y) (h' : pattern.FirstConflict x' y') : x = x' ∧ y = y' := by
  have hnot := h'.first x y h.x_le h.y_le
  have hnot' := h.first x' y' h'.x_le h'.y_le
  simp only [h.conflict, h'.conflict, not_true, imp_false, Precedes] at hnot hnot'
  omega

/-- Without diagonals, no lines get into each other's way. -/
theorem not_hasConflict_of_straight {pattern : Pattern}
    (h : ∀ part ∈ pattern.outline,
      part.1.mode ≠ .diagonalBackslash ∧ part.1.mode ≠ .diagonalSlash) : ¬ pattern.HasConflict := by
  have hnone : ∀ x y, ¬ pattern.Stitched x y .diagonalBackslash ∧
      ¬ pattern.Stitched x y .diagonalSlash := by
    intro x y
    simp only [Pattern.stitched_iff_outline]
    constructor
    · rintro ⟨part, hpart, hmode, _⟩
      exact (h part hpart).1 hmode
    · rintro ⟨part, hpart, hmode, _⟩
      exact (h part hpart).2 hmode
  rintro ⟨x, y, _, _, ⟨hd | hd, _⟩ | ⟨hd, _⟩⟩
  · exact (hnone x y).1 hd
  · exact (hnone x y).2 hd
  · exact (hnone x y).1 hd

/-! ### Searching a grid -/

theorem findSome?_range_eq_some_iff {α : Type} {f : Nat → Option α} {n : Nat} {a : α} :
    (List.range n).findSome? f = some a ↔ ∃ i, i < n ∧ f i = some a ∧ ∀ j < i, f j = none := by
  induction n with
  | zero => simp
  | succ n ih =>
    rw [List.range_succ, List.findSome?_append, Option.or_eq_some_iff, ih]
    simp only [List.findSome?_eq_none_iff, List.mem_range, List.findSome?_singleton]
    constructor
    · rintro (⟨i, hi, hf, hfirst⟩ | ⟨hnone, hf⟩)
      · exact ⟨i, by omega, hf, hfirst⟩
      · exact ⟨n, by omega, hf, hnone⟩
    · rintro ⟨i, hi, hf, hfirst⟩
      rcases Nat.lt_succ_iff_lt_or_eq.mp hi with hi | rfl
      · exact .inl ⟨i, hi, hf, hfirst⟩
      · exact .inr ⟨hfirst, hf⟩

namespace Grid

theorem find?_eq_none_iff {grid : Grid} {p : Stitches → Bool} :
    grid.find? p = none ↔
      ∀ x y, x < grid.extent → y < grid.extent → p (grid.look x y) = false := by
  simp only [find?, List.findSome?_eq_none_iff, List.mem_range]
  constructor
  · intro h x y hx hy
    simpa using h y hy x hx
  · intro h y hy x hx
    simp [h x y hx hy]

/-- What is found is the first of its kind. -/
theorem find?_eq_some {grid : Grid} {p : Stitches → Bool} {stitches : Stitches}
    (h : grid.find? p = some stitches) :
    ∃ x y, x < grid.extent ∧ y < grid.extent ∧ grid.look x y = stitches ∧ p stitches = true ∧
      ∀ x' y', x' < grid.extent → y' < grid.extent → Precedes x' y' x y →
        p (grid.look x' y') = false := by
  rw [find?, findSome?_range_eq_some_iff] at h
  obtain ⟨y, hy, hrow, habove⟩ := h
  obtain ⟨x, hx, hfound, hbefore⟩ := findSome?_range_eq_some_iff.mp hrow
  simp only [Option.ite_none_right_eq_some, Option.some.injEq] at hfound
  refine ⟨x, y, hx, hy, hfound.2, hfound.2 ▸ hfound.1, ?_⟩
  rintro x' y' hx' - (hlt | ⟨rfl, hlt⟩)
  · have hrow' := habove y' hlt
    rw [List.findSome?_eq_none_iff] at hrow'
    simpa using hrow' x' (List.mem_range.mpr hx')
  · simpa using hbefore x' hlt

/-! ### Reach of the store -/

/-- Every place that can be asked for lies within the store. -/
def InRange (grid : Grid) : Prop :=
  (∀ cell i, index? grid.extent cell = some i → i < grid.cells.size) ∧
    ∀ x y, x < grid.extent → y < grid.extent → y * grid.extent + x < grid.cells.size

theorem IsSquare.inRange {grid : Grid} (h : grid.IsSquare) : grid.InRange := by
  have hplace : ∀ x y, x < grid.extent → y < grid.extent →
      y * grid.extent + x < grid.cells.size := by
    intro x y hx hy
    rw [h]
    exact lt_of_square hx hy
  refine ⟨fun cell i hi => ?_, hplace⟩
  obtain ⟨x, y, hx, hy, _, _, rfl⟩ := index?_eq_some_iff.mp hi
  exact hplace x y hx hy

end Grid

/-! ### Grids that are too large -/

/-- A square fits if its side does. -/
theorem square_le_maxGridCells_iff {extent : Nat} :
    extent * extent ≤ maxGridCells ↔ extent ≤ 2048 := by
  have hmax : maxGridCells = 2048 * 2048 := rfl
  rw [hmax, Nat.mul_self_le_mul_self_iff]

namespace Grid

variable {pattern : Pattern} {extent : Nat}

theorem ofPattern_of_le (h : extent ≤ 2048) : ∃ grid, ofPattern pattern extent = .ok grid :=
  ⟨_, ofPattern_eq_ok_iff.mpr ⟨square_le_maxGridCells_iff.mpr h, rfl⟩⟩

theorem ofPattern_of_lt (h : 2048 < extent) :
    ofPattern pattern extent = .error (.bare (.chartTooLarge pattern.size)) := by
  rw [ofPattern, if_neg]
  rw [square_le_maxGridCells_iff]
  omega

variable {grid : Grid}

theorem conflicts_iff (hp : pattern.Made) (h : ofPattern pattern extent = .ok grid) {x y : Nat}
    (hx : x < extent) (hy : y < extent) :
    (grid.look x y).conflicts = true ↔ pattern.Conflict x y := by
  have hslot := isSome_slot_iff hp h hx hy
  simp only [Pattern.Conflict, Pattern.Straight, ← hslot, Stitches.slot, Stitches.conflicts,
    Stitches.hasDiagonal, Stitches.hasStraightLine, Bool.and_eq_true, Bool.or_eq_true]
  tauto

theorem hasStraightLine_iff (hp : pattern.Made) (h : ofPattern pattern extent = .ok grid)
    {x y : Nat} (hx : x < extent) (hy : y < extent) :
    (grid.look x y).hasStraightLine = true ↔ pattern.Straight x y := by
  have hslot := isSome_slot_iff hp h hx hy
  simp only [Pattern.Straight, ← hslot, Stitches.slot, Stitches.hasStraightLine, Bool.or_eq_true]

/-- A grid larger than the pattern has a conflict if the pattern has. -/
theorem find?_conflicts_eq_none_iff (hp : pattern.Made) (h : ofPattern pattern extent = .ok grid)
    (hsize : pattern.size < extent) :
    grid.find? Stitches.conflicts = none ↔ ¬ pattern.HasConflict := by
  rw [find?_eq_none_iff, extent_ofPattern h]
  constructor
  · rintro hnone ⟨x, y, hx, hy, hconf⟩
    rw [← conflicts_iff hp h (by omega) (by omega), hnone x y (by omega) (by omega)] at hconf
    cases hconf
  · intro hfree x y hx hy
    by_cases hin : x ≤ pattern.size ∧ y ≤ pattern.size
    · rw [← Bool.not_eq_true, conflicts_iff hp h hx hy]
      exact fun hconf => hfree ⟨x, y, hin.1, hin.2, hconf⟩
    · rw [look_eq_blank_of_size_lt hp h hsize (by omega)]
      rfl

theorem find?_conflicts_eq_some (hp : pattern.Made) (h : ofPattern pattern extent = .ok grid)
    (hsize : extent = pattern.size + 1) {stitches : Stitches}
    (hfind : grid.find? Stitches.conflicts = some stitches) :
    ∃ x y, pattern.FirstConflict x y ∧
      (stitches.hasStraightLine = true ↔ pattern.Straight x y) := by
  obtain ⟨x, y, hx, hy, rfl, hconf, hfirst⟩ := find?_eq_some hfind
  rw [extent_ofPattern h] at hx hy hfirst
  refine ⟨x, y, ⟨by omega, by omega, (conflicts_iff hp h hx hy).mp hconf, ?_⟩,
    hasStraightLine_iff hp h hx hy⟩
  intro x' y' hx' hy' hbefore
  rw [← conflicts_iff hp h (by omega) (by omega), hfirst x' y' (by omega) (by omega) hbefore]
  simp

end Grid

/-! ### The text chart -/

namespace Ascii

/-- The text of a chart that can be drawn. -/
def wholeText (pattern : Pattern) (options : RenderOptions) (grid : Grid) : String :=
  let colours := crossColours grid
  let drawing : Drawing := ⟨grid, colours, separatorOf options⟩
  Text.unlines (drawing.shownLines.map drawing.text ++ ["", "---"] ++ legend pattern colours ++
    (warnings grid colours).summary.map warningLine)

variable {pattern : Pattern} {options : RenderOptions}

theorem render_of_error {fault : Fault}
    (h : Grid.ofPattern pattern (pattern.size + surplus) = .error fault) :
    render pattern options = .error fault := by
  rw [render, h]
  rfl

theorem render_of_grid {grid : Grid}
    (h : Grid.ofPattern pattern (pattern.size + surplus) = .ok grid) :
    render pattern options =
      if (grid.find? Stitches.conflicts).isSome then .error (.bare .incompatibleLineCombination)
      else .ok (wholeText pattern options grid) := by
  rw [render, h]
  show (if _ then _ else _) = _
  split <;> rfl

theorem exists_grid (h : pattern.size ≤ 2045) :
    ∃ grid, Grid.ofPattern pattern (pattern.size + surplus) = .ok grid := by
  apply Grid.ofPattern_of_le
  simp only [surplus]
  omega

theorem render_of_lt (h : 2045 < pattern.size) :
    render pattern options = .error (.bare (.chartTooLarge pattern.size)) := by
  have hlarge : 2048 < pattern.size + surplus := by
    simp only [surplus]
    omega
  rw [render, Grid.ofPattern_of_lt hlarge]
  rfl

theorem render_eq_ok_iff {output : String} :
    render pattern options = .ok output ↔
      ∃ grid, Grid.ofPattern pattern (pattern.size + surplus) = .ok grid ∧
        grid.find? Stitches.conflicts = none ∧ output = wholeText pattern options grid := by
  constructor
  · intro h
    obtain ⟨grid, hg, _⟩ := bind_eq_ok_iff.mp h
    rw [render_of_grid hg] at h
    split at h
    · cases h
    next hnone =>
      cases h
      exact ⟨grid, hg, by simpa using hnone, rfl⟩
  · rintro ⟨grid, hg, hnone, rfl⟩
    rw [render_of_grid hg, hnone]
    rfl

/-- A chart that is not too large is given up for a conflict and nothing else. -/
theorem render_eq_error_iff (hp : pattern.Made) (hsize : pattern.size ≤ 2045) {fault : Fault} :
    render pattern options = .error fault ↔
      fault = .bare .incompatibleLineCombination ∧ pattern.HasConflict := by
  obtain ⟨grid, hg⟩ := exists_grid hsize
  have hnone := Grid.find?_conflicts_eq_none_iff hp hg (by simp [surplus])
  rw [render_of_grid hg]
  cases hfind : grid.find? Stitches.conflicts with
  | none => simp [hnone.mp hfind]
  | some stitches =>
    have hconf : pattern.HasConflict := by
      by_contra hfree
      rw [hnone.mpr hfree] at hfind
      cases hfind
    simp only [Option.isSome_some, if_true, hconf, and_true, Except.error.injEq]
    exact eq_comm

theorem exists_render_eq_ok_iff (hp : pattern.Made) (hsize : pattern.size ≤ 2045) :
    (∃ output, render pattern options = .ok output) ↔ ¬ pattern.HasConflict := by
  obtain ⟨grid, hg⟩ := exists_grid hsize
  rw [← Grid.find?_conflicts_eq_none_iff hp hg (by simp [surplus]), render_of_grid hg]
  cases grid.find? Stitches.conflicts <;> simp

end Ascii

/-! ### The page -/

namespace Html

variable {pattern : Pattern}

theorem chart_of_lt (h : 2047 < pattern.size) :
    chart pattern = .error (.bare (.chartTooLarge pattern.size)) := by
  rw [chart, Grid.ofPattern_of_lt (by omega)]
  rfl

/-- The chart of a page that can be made. -/
def wholeChart (pattern : Pattern) (grid : Grid) : PageChart where
  size := pattern.size + 1
  cells := (List.range (pattern.size + 1)).flatMap fun row =>
    (List.range (pattern.size + 1)).map fun column =>
      pageCell grid (idWidth pattern.size) column row
  legend := (pattern.usage.values.map legendLine).mergeSort fun a b => a ≤ b

theorem chart_of_grid {grid : Grid} (h : Grid.ofPattern pattern (pattern.size + 1) = .ok grid) :
    chart pattern = match grid.find? Stitches.conflicts with
      | some stitches => .error (.bare (conflictKind stitches))
      | none => .ok (wholeChart pattern grid) := by
  rw [chart]
  dsimp only
  rw [h]
  simp only [bind, Except.bind]
  cases grid.find? Stitches.conflicts <;> rfl

theorem chart_eq_ok_iff {page : PageChart} :
    chart pattern = .ok page ↔
      ∃ grid, Grid.ofPattern pattern (pattern.size + 1) = .ok grid ∧
        grid.find? Stitches.conflicts = none ∧ page = wholeChart pattern grid := by
  constructor
  · intro h
    obtain ⟨grid, hg, _⟩ := bind_eq_ok_iff.mp h
    rw [chart_of_grid hg] at h
    split at h
    · cases h
    next hnone =>
      cases h
      exact ⟨grid, hg, hnone, rfl⟩
  · rintro ⟨grid, hg, hnone, rfl⟩
    rw [chart_of_grid hg, hnone]

theorem exists_grid (h : pattern.size ≤ 2047) :
    ∃ grid, Grid.ofPattern pattern (pattern.size + 1) = .ok grid :=
  Grid.ofPattern_of_le (by omega)

/-- A page that is not too large is given up for its first conflict and nothing else. -/
theorem chart_eq_error_iff (hp : pattern.Made) (hsize : pattern.size ≤ 2047) {fault : Fault} :
    chart pattern = .error fault ↔ ∃ x y, pattern.FirstConflict x y ∧
      (pattern.Straight x y ∧ fault = .bare .incompatibleLineCombination ∨
        ¬ pattern.Straight x y ∧ fault = .bare .crossStitchLineConflict) := by
  obtain ⟨grid, hg⟩ := exists_grid hsize
  rw [chart_of_grid hg]
  cases hfind : grid.find? Stitches.conflicts with
  | none =>
    have hfree := (Grid.find?_conflicts_eq_none_iff hp hg (by omega)).mp hfind
    simp only [reduceCtorEq, false_iff]
    rintro ⟨x, y, hfirst, _⟩
    exact hfree ⟨x, y, hfirst.x_le, hfirst.y_le, hfirst.conflict⟩
  | some stitches =>
    obtain ⟨x, y, hfirst, hstraight⟩ := Grid.find?_conflicts_eq_some hp hg rfl hfind
    have honly : ∀ {P : Nat → Nat → Prop}, (∃ x y, pattern.FirstConflict x y ∧ P x y) ↔ P x y := by
      intro P
      constructor
      · rintro ⟨x', y', hfirst', hP⟩
        obtain ⟨rfl, rfl⟩ := hfirst.unique hfirst'
        exact hP
      · exact fun hP => ⟨x, y, hfirst, hP⟩
    rw [honly]
    by_cases h : pattern.Straight x y <;> simp [conflictKind, h, hstraight, eq_comm]

theorem exists_chart_eq_ok_iff (hp : pattern.Made) (hsize : pattern.size ≤ 2047) :
    (∃ page, chart pattern = .ok page) ↔ ¬ pattern.HasConflict := by
  obtain ⟨grid, hg⟩ := exists_grid hsize
  rw [← Grid.find?_conflicts_eq_none_iff hp hg (by omega), chart_of_grid hg]
  cases grid.find? Stitches.conflicts <;> simp

theorem exists_chart_eq_error_iff (hp : pattern.Made) (hsize : pattern.size ≤ 2047) :
    (∃ fault, chart pattern = .error fault) ↔ pattern.HasConflict := by
  rw [← not_iff_not, ← exists_chart_eq_ok_iff hp hsize]
  cases chart pattern <;> simp

end Html

/-! ### Both -/

/-- A text chart is given up for its size beyond 2045 and a page for its size beyond 2047.
Otherwise each is given up for a conflict and nothing else, so that both are or neither is. A
text chart always gives the same reason, a page that of its first conflict. While a grid is
filled and read, no place beyond its store is asked for. -/
theorem renderers_reject_alike {pattern : Pattern} (hp : pattern.Made) (options : RenderOptions) :
    (Ascii.render pattern options = .error (.bare (.chartTooLarge pattern.size)) ↔
      2045 < pattern.size) ∧
    (pattern.size ≤ 2045 → ∀ fault, Ascii.render pattern options = .error fault ↔
      fault = .bare .incompatibleLineCombination ∧ pattern.HasConflict) ∧
    (Html.chart pattern = .error (.bare (.chartTooLarge pattern.size)) ↔ 2047 < pattern.size) ∧
    (pattern.size ≤ 2047 → ∀ fault, Html.chart pattern = .error fault ↔
      ∃ x y, pattern.FirstConflict x y ∧
        (pattern.Straight x y ∧ fault = .bare .incompatibleLineCombination ∨
          ¬ pattern.Straight x y ∧ fault = .bare .crossStitchLineConflict)) ∧
    (pattern.size ≤ 2047 →
      ((∃ fault, Html.chart pattern = .error fault) ↔ pattern.HasConflict)) ∧
    (pattern.size ≤ 2045 → ((∃ output, Ascii.render pattern options = .ok output) ↔
      ∃ page, Html.chart pattern = .ok page)) ∧
    ∀ extent made, made <+: pattern.strokes →
      (made.foldl Grid.stitch (Grid.blank extent)).InRange := by
  refine ⟨⟨?_, Ascii.render_of_lt⟩, fun hsize _ => Ascii.render_eq_error_iff hp hsize,
    ⟨?_, Html.chart_of_lt⟩, fun hsize _ => Html.chart_eq_error_iff hp hsize,
    Html.exists_chart_eq_error_iff hp, ?_, ?_⟩
  · intro hlarge
    by_contra hsize
    have hreason := ((Ascii.render_eq_error_iff hp (Nat.le_of_not_lt hsize)).mp hlarge).1
    cases hreason
  · intro hlarge
    by_contra hsize
    obtain ⟨x, y, _, hreason⟩ := (Html.chart_eq_error_iff hp (Nat.le_of_not_lt hsize)).mp hlarge
    rcases hreason with ⟨_, hreason⟩ | ⟨_, hreason⟩ <;> cases hreason
  · intro hsize
    rw [Ascii.exists_render_eq_ok_iff hp hsize, Html.exists_chart_eq_ok_iff hp (by omega)]
  · intro extent made _
    exact (Grid.isSquare_foldl_stitch (Grid.isSquare_blank extent) made).inRange

/-- Two diagonals, and nothing else, at the first position. -/
def crossedLines : List Action :=
  let palette : Palette := Std.ExtTreeMap.empty.insert 'a' ⟨'a', "red", "red"⟩
  [⟨palette, some .diagonalBackslash, ["a"], ⟨0, 0⟩⟩, ⟨palette, some .diagonalSlash, ["a"], ⟨0, 0⟩⟩]

theorem crossedLines_rejected :
    ∃ pattern, pattern.Made ∧ patternOfActions crossedLines = .ok pattern ∧
      Ascii.render pattern .default = .error (.bare .incompatibleLineCombination) ∧
      Html.chart pattern = .error (.bare .crossStitchLineConflict) := by
  have hmap : (patternOfActions crossedLines).map (fun p => (p.size, p.outline)) =
      .ok (1, [(⟨"red", .diagonalBackslash⟩, [⟨1, 1⟩]), (⟨"red", .diagonalSlash⟩, [⟨1, 1⟩])]) := by
    decide +kernel
  obtain ⟨pattern, hp, hparts⟩ := map_eq_ok_iff.mp hmap
  obtain ⟨hsize, houtline⟩ := Prod.mk.inj hparts
  have hstitched : ∀ x y mode, pattern.Stitched x y mode ↔
      (mode = .diagonalBackslash ∨ mode = .diagonalSlash) ∧ x = 1 ∧ y = 1 := by
    intro x y mode
    rw [Pattern.stitched_iff_outline, houtline]
    have hone : (1 : Int32).toInt = 1 := rfl
    simp only [List.mem_cons, List.not_mem_nil, or_false, exists_eq_or_imp, exists_eq_left, hone]
    grind
  have hbare : ¬ pattern.Straight 1 1 := by
    simp [Pattern.Straight, hstitched]
  have hfirst : pattern.FirstConflict 1 1 := by
    refine ⟨by omega, by omega, .inr ?_, ?_⟩
    · simp [hstitched]
    · intro x y _ _ hbefore
      have hother : ¬ (x = 1 ∧ y = 1) := by
        rcases hbefore with h | h <;> omega
      simp [Pattern.Conflict, hstitched, hother]
  obtain ⟨_, htext, _, hpage, _⟩ := renderers_reject_alike (.painted hp) .default
  refine ⟨pattern, .painted hp, hp, ?_, ?_⟩
  · exact (htext (by omega) _).mpr ⟨rfl, 1, 1, by omega, by omega, hfirst.conflict⟩
  · exact (hpage (by omega) _).mpr ⟨1, 1, hfirst, .inr ⟨hbare, rfl⟩⟩

end CrossStitch
