import CrossStitch.Proofs.Pattern.StrokeOrder
import CrossStitch.Proofs.Render.CommitOrder
import CrossStitch.Render.Format

/-! An action that is committed twice in a row. The strokes of the second time fall on those of
the first. So what lies on top, the order in which strands are first used and the last spelling
of each colour stay as they were. Nothing changes but the numbers of the strokes, and those are
not shown. -/

namespace CrossStitch

/-! ### Lists with a part that comes twice -/

section Lists

variable {α : Type} (before part after : List α)

theorem mem_repeated {a : α} :
    a ∈ before ++ (part ++ (part ++ after)) ↔ a ∈ before ++ (part ++ after) := by
  simp only [List.mem_append, or_self_left]

/-- Of equal elements the last is kept, and the first part has none that is the last. -/
theorem dedup_repeated [DecidableEq α] :
    (before ++ (part ++ (part ++ after))).dedup = (before ++ (part ++ after)).dedup := by
  have hpart : part ⊆ part ++ after := List.subset_append_left part after
  rw [List.dedup_append, hpart.dedup_append_right, ← List.dedup_append]

/-- Of equal elements the first is kept, and the second part has none that is the first. -/
theorem eraseDups_repeated [BEq α] [LawfulBEq α] :
    (before ++ (part ++ (part ++ after))).eraseDups = (before ++ (part ++ after)).eraseDups := by
  have htwice (p q : List α) : (p ++ (p ++ q)).eraseDups = (p ++ q).eraseDups := by
    have hgone : (p ++ q).removeAll p = q.removeAll p := by simp [List.removeAll]
    rw [List.eraseDups_append, hgone, ← List.eraseDups_append]
  have hfar (q : List α) :
      (before ++ q).eraseDups = before.eraseDups ++ (q.removeAll before).eraseDups :=
    List.eraseDups_append
  rw [hfar, hfar]
  simp only [List.removeAll, List.filter_append, htwice]

end Lists

theorem lastSpelling_append (made others : List SpelledDab) (colour : String) :
    lastSpelling (made ++ others) colour =
      (lastSpelling others colour).or (lastSpelling made colour) := by
  simp only [lastSpelling, List.filter_append, List.getLast?_append, Option.map_or]

/-! ### What is shown of a list of actions -/

section Pattern

variable {actions : List Action} {pattern : Pattern}

/-- The outline is told by the order in which strands are used and by the cells of each. -/
theorem outline_eq (h : patternOfActions actions = .ok pattern) :
    pattern.outline = (strandsUsed (actions.flatMap Action.strokesMade)).map fun strand =>
      (strand, pattern.cellsOf strand) := by
  rw [← map_strand_entries h, List.map_map, Pattern.outline]
  refine List.map_congr_left fun entry he => ?_
  rw [Function.comp_apply, Pattern.cellsOf,
    (Pattern.entry?_eq_some_iff (nodup_strands h)).mpr ⟨he, rfl⟩]
  rfl

/-- The usage table is told by the last spellings and by the outline. -/
theorem getElem?_usage (h : patternOfActions actions = .ok pattern) (colour : String) :
    pattern.usage[colour]? = (lastSpelling (actions.flatMap Action.strokesMade) colour).map
      fun label => ⟨label, outlineCoverage pattern.outline colour⟩ := by
  obtain ⟨builder, hbooks, hentries, husage⟩ := exists_books h
  have hcount := hbooks.count colour
  rw [← hentries, coverage_eq_outlineCoverage, ← Pattern.outline] at hcount
  rw [husage, ← hbooks.label, ← hcount]
  cases builder.usage[colour]? <;> rfl

end Pattern

/-- Two lists of actions that come to the same but for the numbers of strokes: they have the
same first flaw and the same reach, they use strands in the same order, the last dabs come in
the same order, and the last spellings are the same. -/
structure PaintAlike (actions other : List Action) : Prop where
  flaw : firstFlaw? actions = firstFlaw? other
  reach : reachOver (-1) (actions.flatMap Action.places) =
    reachOver (-1) (other.flatMap Action.places)
  strands : strandsUsed (actions.flatMap Action.strokesMade) =
    strandsUsed (other.flatMap Action.strokesMade)
  dabs : (actions.flatMap Action.dabs).dedup = (other.flatMap Action.dabs).dedup
  spelling : ∀ colour, lastSpelling (actions.flatMap Action.strokesMade) colour =
    lastSpelling (other.flatMap Action.strokesMade) colour

/-- The patterns have the same size, the same entries in the same order with the same cells, the
same labels and counts, and the same strokes in the same order, but for their numbers. -/
structure Pattern.SameButNumbers (pattern another : Pattern) : Prop where
  size : pattern.size = another.size
  outline : pattern.outline = another.outline
  usage : pattern.usage = another.usage
  strokes : pattern.strokes.map Stroke.dab = another.strokes.map Stroke.dab

namespace PaintAlike

variable {actions other : List Action} {pattern another : Pattern}

/-- Both are given up for the same reason, or both come to a pattern. -/
theorem outcome (h : PaintAlike actions other) :
    (patternOfActions actions).map Pattern.size = (patternOfActions other).map Pattern.size := by
  rw [map_size_patternOfActions, map_size_patternOfActions, h.flaw, h.reach]

theorem cellsOf (h : PaintAlike actions other) (hp : patternOfActions actions = .ok pattern)
    (hp' : patternOfActions other = .ok another) (strand : Strand) :
    pattern.cellsOf strand = another.cellsOf strand := by
  apply Pattern.cellsOf_congr
  intro cell
  rw [mem_cellsOf_iff_mem_dabs hp, mem_cellsOf_iff_mem_dabs hp', ← List.mem_dedup, h.dabs,
    List.mem_dedup]

theorem sameButNumbers (h : PaintAlike actions other)
    (hp : patternOfActions actions = .ok pattern) (hp' : patternOfActions other = .ok another) :
    pattern.SameButNumbers another := by
  have houtline : pattern.outline = another.outline := by
    rw [outline_eq hp, outline_eq hp', h.strands]
    simp only [h.cellsOf hp hp']
  refine ⟨?_, houtline, Std.ExtTreeMap.ext_getElem? fun colour => ?_, ?_⟩
  · have hsize := h.outcome
    rw [hp, hp'] at hsize
    exact Except.ok.inj hsize
  · rw [getElem?_usage hp, getElem?_usage hp', h.spelling, houtline]
  · rw [map_dab_strokes hp, map_dab_strokes hp', h.dabs]

end PaintAlike

/-! ### What is shown of a pattern -/

namespace Pattern.SameButNumbers

variable {pattern another : Pattern}

theorem grid (h : pattern.SameButNumbers another) (extent : Nat) :
    Grid.ofPattern pattern extent = Grid.ofPattern another extent :=
  Grid.ofPattern_congr h.size (fun _ _ _ => by rw [h.strokes]) extent

/-- Neither format shows the numbers of strokes. -/
theorem render (h : pattern.SameButNumbers another) (format : Format) (options : RenderOptions) :
    CrossStitch.render pattern format options = CrossStitch.render another format options := by
  cases format with
  | ascii =>
    have hline : Ascii.legendLine pattern = Ascii.legendLine another := by
      funext colours colour
      simp only [Ascii.legendLine, Pattern.usage?, h.usage]
    simp only [CrossStitch.render, Ascii.render, Ascii.legend, h.grid, h.size, hline]
  | html => simp only [CrossStitch.render, Html.render, Html.chart, h.grid, h.size, h.usage]

end Pattern.SameButNumbers

/-! ### The same action twice -/

theorem paintAlike_repeated (before after : List Action) (action : Action) :
    PaintAlike (before ++ action :: action :: after) (before ++ action :: after) where
  flaw := by
    simp only [firstFlaw?, List.findSome?_append, List.findSome?_cons]
    cases action.flaw? <;> rfl
  reach := by
    apply reachOver_congr
    intro place
    simp only [List.flatMap_append, List.flatMap_cons, mem_repeated]
  strands := by
    simp only [strandsUsed, List.flatMap_append, List.flatMap_cons, List.map_append,
      eraseDups_repeated]
  dabs := by
    simp only [List.flatMap_append, List.flatMap_cons, dedup_repeated]
  spelling colour := by
    simp only [List.flatMap_append, List.flatMap_cons, lastSpelling_append, Option.or_assoc]
    cases lastSpelling action.strokesMade colour <;> rfl

/-- To commit an action twice in a row is to commit it once. Either way the actions are given up
for the same reason, or they come to patterns in which only the numbers of strokes differ. All
grids of these are the same, and whatever is rendered of them. -/
theorem repeated_action_shows_nothing_new (before after : List Action) (action : Action) :
    (∃ fault, patternOfActions (before ++ action :: action :: after) = .error fault ∧
      patternOfActions (before ++ action :: after) = .error fault) ∨
    ∃ pattern another, patternOfActions (before ++ action :: action :: after) = .ok pattern ∧
      patternOfActions (before ++ action :: after) = .ok another ∧
      pattern.SameButNumbers another ∧
      (∀ extent, Grid.ofPattern pattern extent = Grid.ofPattern another extent) ∧
      ∀ format options, render pattern format options = render another format options := by
  have halike := paintAlike_repeated before after action
  rcases map_eq_map_iff.mp halike.outcome with ⟨fault, h, h'⟩ | ⟨pattern, another, h, h', _⟩
  · exact .inl ⟨fault, h, h'⟩
  · have hsame := halike.sameButNumbers h h'
    exact .inr ⟨pattern, another, h, h', hsame, hsame.grid, hsame.render⟩

/-- The numbers do differ: the one cross that is kept is that of the second time. -/
example :
    let cross : Action :=
      ⟨Std.ExtTreeMap.empty.insert 'a' ⟨'a', "red", "red"⟩, some .crossStitch, ["a"], ⟨0, 0⟩⟩
    (patternOfActions [cross, cross]).map (fun p => p.strokes.map Stroke.number) = .ok [2] ∧
      (patternOfActions [cross]).map (fun p => p.strokes.map Stroke.number) = .ok [1] := by
  decide +kernel

end CrossStitch
