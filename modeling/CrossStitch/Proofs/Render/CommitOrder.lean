import CrossStitch.Proofs.Pattern.Size
import CrossStitch.Proofs.Pattern.Usage
import CrossStitch.Proofs.Render.TextChart
import Mathlib.Order.Bounds.Basic

/-! The order of commits. Which entries a pattern has, with which cells, and how much of each
colour is used depends on what actions there are, and not on when they come. So does the size,
and whether there is a pattern at all. The order tells what is on top where one colour is
stitched over another in the same mode. Where that never happens it is seen in nothing but
labels and in the order of entries, and neither grids nor charts show it. -/

namespace CrossStitch

/-- No cell is dabbed on in two colours in the same mode. -/
def NoOverpainting (dabs : List Dab) : Prop :=
  ∀ dab ∈ dabs, ∀ other ∈ dabs, dab.cell = other.cell → dab.strand.mode = other.strand.mode →
    dab.strand.colour = other.strand.colour

instance (dabs : List Dab) : Decidable (NoOverpainting dabs) :=
  inferInstanceAs (Decidable (∀ dab ∈ dabs, ∀ other ∈ dabs, _ → _ → _))

/-! ### One pattern -/

section Pattern

variable {actions : List Action} {pattern : Pattern}

theorem nodup_strands (h : patternOfActions actions = .ok pattern) :
    (pattern.entries.map Entry.strand).Nodup := by
  obtain ⟨builder, hbooks, hentries, _⟩ := exists_books h
  rw [hentries]
  exact hbooks.holds.strands_nodup

/-- The cells of a strand come from a set, and so their order is told by which they are. -/
theorem Pattern.cellsOf_congr {other : Pattern} {strand : Strand}
    (h : ∀ cell, cell ∈ pattern.cellsOf strand ↔ cell ∈ other.cellsOf strand) :
    pattern.cellsOf strand = other.cellsOf strand := by
  have hset (p : Pattern) : ∃ cells : Std.ExtTreeSet Cell, p.cellsOf strand = cells.toList := by
    rw [cellsOf]
    cases p.entry? strand with
    | none => exact ⟨∅, rfl⟩
    | some entry => exact ⟨entry.cellSet, rfl⟩
  obtain ⟨cells, hcells⟩ := hset pattern
  obtain ⟨others, hothers⟩ := hset other
  rw [hcells, hothers] at h ⊢
  simp only [Std.ExtTreeSet.mem_toList] at h
  rw [Std.ExtTreeSet.ext_mem h]

/-- The outline of a pattern has the strands with cells, and all the cells of each. -/
theorem mem_outline_iff (h : patternOfActions actions = .ok pattern) {strand : Strand}
    {cells : List Cell} :
    (strand, cells) ∈ pattern.outline ↔ cells ≠ [] ∧ pattern.cellsOf strand = cells := by
  have hentry := @Pattern.entry?_eq_some_iff pattern (nodup_strands h) strand
  rw [Pattern.outline, List.mem_map, Pattern.cellsOf]
  constructor
  · rintro ⟨entry, he, heq⟩
    cases heq
    rw [hentry.mpr ⟨he, rfl⟩]
    exact ⟨((Pattern.Made.painted h).filled entry he).cells_ne_nil, rfl⟩
  · rintro ⟨hne, hcells⟩
    cases hfound : pattern.entry? strand with
    | none =>
      rw [hfound] at hcells
      exact absurd hcells.symm hne
    | some entry =>
      rw [hfound] at hcells
      obtain ⟨he, hstrand⟩ := hentry.mp hfound
      exact ⟨entry, he, Prod.ext hstrand hcells⟩

theorem nodup_outline (h : patternOfActions actions = .ok pattern) : pattern.outline.Nodup := by
  have hstrands := nodup_strands h
  rw [List.Nodup, List.pairwise_map] at hstrands
  rw [Pattern.outline, List.Nodup, List.pairwise_map]
  exact hstrands.imp fun hne heq => hne (congrArg Prod.fst heq)

/-- How many cells the outline has in a colour. -/
def outlineCoverage (outline : List (Strand × List Cell)) (colour : String) : Nat :=
  ((outline.filter fun part => part.1.colour = colour).map fun part => part.2.length).sum

theorem coverage_eq_outlineCoverage (entries : List Entry) (colour : String) :
    Entry.coverage entries colour =
      outlineCoverage (entries.map fun entry => (entry.strand, entry.cells)) colour := by
  rw [Entry.coverage, outlineCoverage, List.filter_map, List.map_map]
  rfl

/-- The counts are told by the outline. -/
theorem map_count_usage? (h : patternOfActions actions = .ok pattern) (colour : String) :
    (pattern.usage? colour).map Usage.count =
      if ∃ part ∈ pattern.outline, part.1.colour = colour then
        some (outlineCoverage pattern.outline colour)
      else none := by
  obtain ⟨builder, hbooks, hentries, husage⟩ := exists_books h
  have hcount := hbooks.count colour
  have hmem := (Pattern.Made.painted h).mem_usage_iff colour
  have hpart : colour ∈ pattern.usage ↔ ∃ part ∈ pattern.outline, part.1.colour = colour := by
    simpa [Pattern.outline] using hmem
  rw [← husage, ← hentries, coverage_eq_outlineCoverage] at hcount
  simp only [← hpart]
  split
  next hin =>
    obtain ⟨usage, hu⟩ := Option.isSome_iff_exists.mp
      (Std.ExtTreeMap.isSome_getElem?_iff_mem.mpr hin)
    rw [hu] at hcount
    rw [Pattern.usage?, hu]
    exact congrArg some hcount
  next hout =>
    rw [Pattern.usage?, Std.ExtTreeMap.getElem?_eq_none hout]
    rfl

end Pattern

/-! ### The same actions -/

section Same

variable {actions other : List Action} (hsame : ∀ action, action ∈ actions ↔ action ∈ other)
include hsame

theorem mem_flatMap_congr {α : Type} (f : Action → List α) (a : α) :
    a ∈ actions.flatMap f ↔ a ∈ other.flatMap f := by
  simp only [List.mem_flatMap, hsame]

theorem exists_patternOfActions_congr :
    (∃ pattern, patternOfActions actions = .ok pattern) ↔
      ∃ pattern, patternOfActions other = .ok pattern := by
  simp only [exists_patternOfActions_iff, mem_flatMap_congr hsame, hsame]

variable {pattern another : Pattern} (h : patternOfActions actions = .ok pattern)
  (h' : patternOfActions other = .ok another)
include h h'

theorem size_congr : pattern.size = another.size := by
  have hsize := isGreatest_size h
  simp only [mem_flatMap_congr hsame] at hsize
  exact Int.ofNat_inj.mp (IsGreatest.unique hsize (isGreatest_size h'))

theorem cellsOf_congr (strand : Strand) : pattern.cellsOf strand = another.cellsOf strand := by
  apply Pattern.cellsOf_congr
  intro cell
  rw [mem_cellsOf_iff_mem_dabs h, mem_cellsOf_iff_mem_dabs h', mem_flatMap_congr hsame]

/-- The entries are the same, in whatever order. -/
theorem outline_perm : pattern.outline.Perm another.outline := by
  rw [List.perm_ext_iff_of_nodup (nodup_outline h) (nodup_outline h')]
  rintro ⟨strand, cells⟩
  rw [mem_outline_iff h, mem_outline_iff h', cellsOf_congr hsame h h']

theorem map_count_congr (colour : String) :
    (pattern.usage? colour).map Usage.count = (another.usage? colour).map Usage.count := by
  have hperm := outline_perm hsame h h'
  have hcoverage : outlineCoverage pattern.outline colour =
      outlineCoverage another.outline colour := ((hperm.filter _).map _).sum_eq
  simp only [map_count_usage? h, map_count_usage? h', hperm.mem_iff, hcoverage]

end Same

/-! ### Grids and charts -/

/-- Without overpainting the last dab has the colour of any. -/
theorem lastColour_eq_some_iff {dabs : List Dab} (h : NoOverpainting dabs) {x y : Nat}
    {mode : StitchMode} {colour : String} :
    lastColour dabs x y mode = some colour ↔
      ∃ dab ∈ dabs, dab.IsOn x y mode ∧ dab.strand.colour = colour := by
  refine ⟨exists_dab_of_lastColour, ?_⟩
  rintro ⟨dab, hd, hon, rfl⟩
  obtain ⟨colour, hlast⟩ := Option.isSome_iff_exists.mp (isSome_lastColour.mpr ⟨dab, hd, hon⟩)
  obtain ⟨last, hl, hlon, rfl⟩ := exists_dab_of_lastColour hlast
  -- both are on the position, so they are on the same cell
  have hcell : last.cell = dab.cell := by
    have hx := Int32.toInt_inj.mp (hlon.1.trans hon.1.symm)
    have hy := Int32.toInt_inj.mp (hlon.2.1.trans hon.2.1.symm)
    rw [Cell.mk.injEq]
    exact ⟨hx, hy⟩
  rw [hlast, h last hl dab hd hcell (hlon.2.2.trans hon.2.2.symm)]

theorem lastColour_congr {dabs others : List Dab} (hsame : ∀ dab, dab ∈ dabs ↔ dab ∈ others)
    (h : NoOverpainting dabs) (x y : Nat) (mode : StitchMode) :
    lastColour dabs x y mode = lastColour others x y mode := by
  have h' : NoOverpainting others := by
    intro dab hd other ho
    exact h dab ((hsame dab).mpr hd) other ((hsame other).mpr ho)
  apply Option.ext
  intro colour
  rw [lastColour_eq_some_iff h, lastColour_eq_some_iff h']
  simp only [hsame]

/-- A grid is told by the size of its pattern and the colours that come last. -/
theorem Grid.ofPattern_congr {pattern another : Pattern} (hsize : pattern.size = another.size)
    (hlast : ∀ x y mode, lastColour (pattern.strokes.map Stroke.dab) x y mode =
      lastColour (another.strokes.map Stroke.dab) x y mode) (extent : Nat) :
    ofPattern pattern extent = ofPattern another extent := by
  rw [ofPattern, ofPattern, hsize]
  refine if_congr Iff.rfl (congrArg Except.ok ?_) rfl
  have hextent (strokes : List Stroke) : (strokes.foldl stitch (blank extent)).extent = extent :=
    extent_foldl_stitch (blank extent) strokes
  refine eq_of_slot (isSquare_foldl_stitch (isSquare_blank extent) _)
    (isSquare_foldl_stitch (isSquare_blank extent) _) ((hextent _).trans (hextent _).symm) ?_
  intro x y hx hy mode
  rw [hextent] at hx hy
  rw [slot_foldl_stitch hx hy, slot_foldl_stitch hx hy, hlast]

/-- The chart is told by the grid. -/
theorem Ascii.map_chartLines_congr {pattern another : Pattern} (hp : pattern.Made)
    (hp' : another.Made) (hsize : pattern.size = another.size)
    (hgrid : ∀ extent, Grid.ofPattern pattern extent = Grid.ofPattern another extent)
    (options : RenderOptions) :
    (render pattern options).map chartLines = (render another options).map chartLines := by
  have hg' := (hgrid (another.size + surplus)).symm
  rw [← hsize] at hg'
  cases hg : Grid.ofPattern pattern (pattern.size + surplus) with
  | error fault =>
    rw [hg, hsize] at hg'
    rw [render_of_error hg, render_of_error hg']
  | ok grid =>
    rw [hg, hsize] at hg'
    rw [render_of_grid hg, render_of_grid hg']
    split
    · rfl
    · rw [Except.map, Except.map, chartLines_wholeText hp options hg,
        chartLines_wholeText hp' options hg']

/-- The order of commits matters for overpainting only. However actions are put in another order,
they come to a pattern or they do not, and the pattern has the same size, the same entries and
the same counts. If no colour is stitched over another, its grids are the same, and its charts. -/
theorem order_matters_for_overpainting_only {actions other : List Action}
    (hperm : actions.Perm other) :
    ((∃ fault, patternOfActions actions = .error fault) ↔
      ∃ fault, patternOfActions other = .error fault) ∧
    ∀ pattern another, patternOfActions actions = .ok pattern →
      patternOfActions other = .ok another →
        pattern.size = another.size ∧ pattern.outline.Perm another.outline ∧
        (∀ colour, (pattern.usage? colour).map Usage.count =
          (another.usage? colour).map Usage.count) ∧
        (NoOverpainting (actions.flatMap Action.dabs) →
          (∀ extent, Grid.ofPattern pattern extent = Grid.ofPattern another extent) ∧
          ∀ options, (Ascii.render pattern options).map Ascii.chartLines =
            (Ascii.render another options).map Ascii.chartLines) := by
  have hsame : ∀ action, action ∈ actions ↔ action ∈ other := fun _ => hperm.mem_iff
  constructor
  · have hok := exists_patternOfActions_congr hsame
    cases ha : patternOfActions actions <;> cases ho : patternOfActions other <;>
      simp [ha, ho] at hok ⊢
  · intro pattern another h h'
    have hsize := size_congr hsame h h'
    refine ⟨hsize, outline_perm hsame h h', map_count_congr hsame h h', fun hfree => ?_⟩
    have hgrid : ∀ extent, Grid.ofPattern pattern extent = Grid.ofPattern another extent := by
      apply Grid.ofPattern_congr hsize
      intro x y mode
      rw [lastColour_strokes h, lastColour_strokes h']
      exact lastColour_congr (mem_flatMap_congr hsame Action.dabs) hfree x y mode
    exact ⟨hgrid, Ascii.map_chartLines_congr (.painted h) (.painted h') hsize hgrid⟩

/-- The side of a position, a cross there, and the same cross and another beside it in another
spelling of the colour. -/
def respelledCross : List Action :=
  [⟨Std.ExtTreeMap.empty.insert 'a' ⟨'a', "blue", "blue"⟩, some .leftEdge, ["a"], ⟨0, 0⟩⟩,
    ⟨Std.ExtTreeMap.empty.insert 'a' ⟨'a', "red", "red"⟩, some .crossStitch, ["a"], ⟨0, 0⟩⟩,
    ⟨Std.ExtTreeMap.empty.insert 'a' ⟨'a', "crimson", "red"⟩, some .crossStitch, ["aa"], ⟨0, 0⟩⟩]

/-- From the last action to the first, the label is another and the entries change places, but
the chart is the same. -/
theorem respelledCross_reversed :
    respelledCross.Perm respelledCross.reverse ∧
    NoOverpainting (respelledCross.flatMap Action.dabs) ∧
    ∃ pattern another output output', patternOfActions respelledCross = .ok pattern ∧
      patternOfActions respelledCross.reverse = .ok another ∧
      pattern.usage? "red" = some ⟨"crimson", 2⟩ ∧ another.usage? "red" = some ⟨"red", 2⟩ ∧
      pattern.outline ≠ another.outline ∧ pattern.outline.Perm another.outline ∧
      Ascii.render pattern .default = .ok output ∧ Ascii.render another .default = .ok output' ∧
      Ascii.chartLines output = Ascii.chartLines output' := by
  have hperm : respelledCross.Perm respelledCross.reverse := (List.reverse_perm _).symm
  have hfree : NoOverpainting (respelledCross.flatMap Action.dabs) := by decide +kernel
  have hmap : (patternOfActions respelledCross).map
      (fun p => (p.size, p.usage? "red", p.outline)) =
      .ok (2, some ⟨"crimson", 2⟩, [(⟨"blue", .leftEdge⟩, [⟨1, 1⟩]),
        (⟨"red", .crossStitch⟩, [⟨1, 1⟩, ⟨2, 1⟩])]) := by
    decide +kernel
  have hmap' : (patternOfActions respelledCross.reverse).map
      (fun p => (p.usage? "red", p.outline)) =
      .ok (some ⟨"red", 2⟩, [(⟨"red", .crossStitch⟩, [⟨1, 1⟩, ⟨2, 1⟩]),
        (⟨"blue", .leftEdge⟩, [⟨1, 1⟩])]) := by
    decide +kernel
  obtain ⟨pattern, h, hparts⟩ := map_eq_ok_iff.mp hmap
  obtain ⟨another, h', hparts'⟩ := map_eq_ok_iff.mp hmap'
  simp only [Prod.mk.injEq] at hparts hparts'
  obtain ⟨hsize, husage, houtline⟩ := hparts
  obtain ⟨husage', houtline'⟩ := hparts'
  have hdrawn : ∃ output, Ascii.render pattern .default = .ok output := by
    rw [Ascii.exists_render_eq_ok_iff (.painted h) (by omega)]
    rintro ⟨x, y, _, _, hconf⟩
    simp [Pattern.Conflict, Pattern.Straight, Pattern.stitched_iff_outline, houtline] at hconf
  obtain ⟨output, hout⟩ := hdrawn
  obtain ⟨_, hoperm, _, hcharts⟩ :=
    (order_matters_for_overpainting_only hperm).2 pattern another h h'
  rcases map_eq_map_iff.mp ((hcharts hfree).2 .default) with
    ⟨_, hfault, _⟩ | ⟨_, output', hsame, hout', hchart⟩
  · cases hfault.symm.trans hout
  · cases hsame.symm.trans hout
    refine ⟨hperm, hfree, pattern, another, output, output', h, h', husage, husage', ?_, hoperm,
      hout, hout', hchart⟩
    rw [houtline, houtline']
    decide

end CrossStitch
