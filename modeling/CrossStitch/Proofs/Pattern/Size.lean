import CrossStitch.Proofs.Render.Extent
import Mathlib.Order.Bounds.Defs

/-! What comes of painting a list of actions. An action cannot be painted if it has no mode or a
symbol that its palette does not have, and the first such action is the reason for which a list
is given up. Otherwise nothing but the places of the symbols matters. The largest coordinate of
all places is the size, whether or not the symbol there is stitched, and a list is refused if
no place lies inside the chart. -/

namespace CrossStitch

/-! ### Places -/

/-- The places of an action's symbols, stitched or not. -/
def Action.places (action : Action) : List Place :=
  action.symbols.map fun symbol => symbol.place action.offset

/-- The largest of a coordinate and all coordinates of the places. -/
def reachOver (reach : Int) (places : List Place) : Int :=
  places.foldl (fun reach place => max (max reach place.x) place.y) reach

/-- The reach is bounded by what bounds every place. -/
theorem reachOver_le_iff {reach bound : Int} {places : List Place} :
    reachOver reach places ≤ bound ↔
      reach ≤ bound ∧ ∀ place ∈ places, place.x ≤ bound ∧ place.y ≤ bound := by
  induction places generalizing reach with
  | nil => simp [reachOver]
  | cons place places ih =>
    rw [reachOver, List.foldl_cons, ← reachOver, ih, List.forall_mem_cons, ← and_assoc]
    refine and_congr_left fun _ => ?_
    omega

/-- So it is told by which places there are. -/
theorem reachOver_congr {reach : Int} {places others : List Place}
    (h : ∀ place, place ∈ places ↔ place ∈ others) :
    reachOver reach places = reachOver reach others := by
  have hbound (bound : Int) : reachOver reach places ≤ bound ↔ reachOver reach others ≤ bound := by
    simp only [reachOver_le_iff, h]
  exact Int.le_antisymm ((hbound _).mpr (Int.le_refl _)) ((hbound _).mp (Int.le_refl _))

/-- The builder starts with the reach -1, and keeps it if no place lies inside the chart. -/
theorem reachOver_lt_iff {places : List Place} :
    reachOver (-1) places + 1 < 1 ↔ ∀ place ∈ places, place.x < 0 ∧ place.y < 0 := by
  have hle : reachOver (-1) places + 1 < 1 ↔ reachOver (-1) places ≤ -1 := by omega
  rw [hle, reachOver_le_iff, and_iff_right (Int.le_refl _)]
  exact forall₂_congr fun place _ => by omega

/-- No place extends the reach, or it is the larger coordinate of one of them. -/
theorem reachOver_eq_or (reach : Int) (places : List Place) :
    reachOver reach places = reach ∨
      ∃ place ∈ places, reachOver reach places = max place.x place.y := by
  induction places generalizing reach with
  | nil => exact .inl rfl
  | cons place places ih =>
    rw [reachOver, List.foldl_cons, ← reachOver]
    rcases ih (max (max reach place.x) place.y) with hsame | ⟨other, ho, heq⟩
    · rw [hsame]
      rcases Int.le_total (max place.x place.y) reach with hle | hle
      · exact .inl (by omega)
      · exact .inr ⟨place, List.mem_cons_self, by omega⟩
    · exact .inr ⟨other, List.mem_cons_of_mem place ho, heq⟩

namespace Builder

/-- The reach depends on where the symbols lie and on nothing else. -/
theorem reach_paint_eq {palette : Palette} {mode : StitchMode} {offset : Offset}
    {symbols : List Symbol} {builder next : Builder}
    (h : Builder.paint palette mode offset builder symbols = (next, .ok ())) :
    next.reach = reachOver builder.reach (symbols.map fun symbol => symbol.place offset) := by
  induction symbols generalizing builder with
  | nil =>
    cases h
    rfl
  | cons symbol symbols ih =>
    rw [List.map_cons, reachOver, List.foldl_cons]
    rw [Builder.paint] at h
    split at h
    · cases h
    · split at h
      · exact ih h
      · rw [ih h, reach_stroke]
        rfl

theorem reach_add_eq {builder next : Builder} {action : Action}
    (h : builder.add action = (next, .ok ())) :
    next.reach = reachOver builder.reach action.places := by
  rw [Builder.add] at h
  split at h
  · cases h
  · split at h
    next hpaint =>
      cases h
      exact reach_paint_eq hpaint
    · cases h

theorem reach_addAll_eq {actions : List Action} {builder next : Builder}
    (h : builder.addAll actions = .ok next) :
    next.reach = reachOver builder.reach (actions.flatMap Action.places) := by
  induction actions generalizing builder with
  | nil =>
    cases h
    rfl
  | cons action actions ih =>
    rw [Builder.addAll] at h
    split at h
    · cases h
    next added hadded =>
      rw [ih h, reach_add_eq hadded, List.flatMap_cons, reachOver, reachOver, reachOver,
        List.foldl_append]

end Builder

/-! ### Actions that cannot be painted -/

/-- The action can be painted to its end. -/
structure Action.Paintable (action : Action) : Prop where
  mode : action.mode ≠ none
  known : ∀ symbol ∈ action.symbols, symbol.char ∈ action.palette

/-- Why an action cannot be painted to its end. -/
def Action.flaw? (action : Action) : Option Fault :=
  match action.mode with
  | none => some (.chart .invalidStitchMode action.rows)
  | some _ =>
    if action.symbols.all fun symbol => action.palette.contains symbol.char then none
    else some (.chart .symbolUnknown action.rows)

/-- The flaw of the first action that has one. -/
def firstFlaw? (actions : List Action) : Option Fault :=
  actions.findSome? Action.flaw?

/-- The fault is due to the first action that cannot be painted, and is traced to its rows. -/
def FirstFlaw (actions : List Action) (fault : Fault) : Prop :=
  ∃ before action after, actions = before ++ action :: after ∧
    (∀ earlier ∈ before, earlier.Paintable) ∧ ¬ action.Paintable ∧
    fault = .chart (if action.mode = none then .invalidStitchMode else .symbolUnknown) action.rows

theorem Action.flaw?_eq_none_iff {action : Action} : action.flaw? = none ↔ action.Paintable := by
  rw [flaw?]
  cases hmode : action.mode with
  | none => exact ⟨nofun, fun h => absurd hmode h.mode⟩
  | some mode =>
    have hall : (action.symbols.all fun symbol => action.palette.contains symbol.char) = true ↔
        ∀ symbol ∈ action.symbols, symbol.char ∈ action.palette := by
      simp only [List.all_eq_true, Std.ExtTreeMap.mem_iff_contains]
    constructor
    · intro h
      exact ⟨by simp [hmode], hall.mp (by simpa using h)⟩
    · intro h
      exact if_pos (hall.mpr h.known)

instance (action : Action) : Decidable action.Paintable :=
  decidable_of_iff (action.flaw? = none) Action.flaw?_eq_none_iff

theorem Action.flaw?_eq_some_iff {action : Action} {fault : Fault} :
    action.flaw? = some fault ↔ ¬ action.Paintable ∧
      fault = .chart (if action.mode = none then .invalidStitchMode else .symbolUnknown)
        action.rows := by
  rw [← flaw?_eq_none_iff, flaw?]
  cases action.mode with
  | none => exact ⟨fun h => ⟨nofun, (Option.some.inj h).symm⟩, fun h => h.2 ▸ rfl⟩
  | some mode =>
    dsimp only
    cases action.symbols.all fun symbol => action.palette.contains symbol.char with
    | true => exact ⟨nofun, fun h => absurd rfl h.1⟩
    | false => exact ⟨fun h => ⟨nofun, (Option.some.inj h).symm⟩, fun h => h.2 ▸ rfl⟩

theorem firstFlaw?_eq_none_iff {actions : List Action} :
    firstFlaw? actions = none ↔ ∀ action ∈ actions, action.Paintable := by
  simp only [firstFlaw?, List.findSome?_eq_none_iff, Action.flaw?_eq_none_iff]

theorem firstFlaw?_eq_some_iff {actions : List Action} {fault : Fault} :
    firstFlaw? actions = some fault ↔ FirstFlaw actions fault := by
  simp only [firstFlaw?, FirstFlaw, List.findSome?_eq_some_iff, Action.flaw?_eq_none_iff,
    Action.flaw?_eq_some_iff]
  constructor
  · rintro ⟨before, action, after, heq, hflaw, hbefore⟩
    exact ⟨before, action, after, heq, hbefore, hflaw⟩
  · rintro ⟨before, action, after, heq, hbefore, hflaw⟩
    exact ⟨before, action, after, heq, hflaw, hbefore⟩

/-! ### Outcome -/

namespace Builder

/-- Painting is given up at a symbol that the palette does not have, and only there. -/
theorem outcome_paint (palette : Palette) (mode : StitchMode) (offset : Offset)
    (symbols : List Symbol) (builder : Builder) :
    (Builder.paint palette mode offset builder symbols).2 =
      if symbols.all fun symbol => palette.contains symbol.char then .ok ()
      else .error .symbolUnknown := by
  induction symbols generalizing builder with
  | nil => rfl
  | cons symbol symbols ih =>
    rw [Builder.paint, List.all_cons, Std.ExtTreeMap.contains_eq_isSome_getElem?]
    cases palette[symbol.char]? with
    | none => rfl
    | some dye =>
      dsimp only
      split
      · rw [ih]
        rfl
      · rw [ih]
        rfl

theorem outcome_add (builder : Builder) (action : Action) :
    (builder.add action).2 = match action.flaw? with
      | none => .ok ()
      | some fault => .error fault := by
  rw [Builder.add, Action.flaw?]
  cases action.mode with
  | none => rfl
  | some mode =>
    have hpaint := outcome_paint action.palette mode action.offset action.symbols builder
    dsimp only
    split at hpaint
    next hknown =>
      rw [if_pos hknown]
      split
      · rfl
      next he =>
        rw [he] at hpaint
        cases hpaint
    next hunknown =>
      rw [if_neg hunknown]
      split
      next he =>
        rw [he] at hpaint
        cases hpaint
      next he =>
        rw [he] at hpaint
        cases hpaint
        rfl

/-- Actions are painted to the end of them all, or up to the first with a flaw. -/
theorem addAll_eq (actions : List Action) (builder : Builder) :
    builder.addAll actions = match firstFlaw? actions with
      | none => .ok (builder.addEach actions)
      | some fault => .error fault := by
  induction actions generalizing builder with
  | nil => rfl
  | cons action actions ih =>
    have hadd := builder.outcome_add action
    rw [Builder.addAll, firstFlaw?, List.findSome?_cons]
    cases hflaw : action.flaw? with
    | none =>
      rw [hflaw] at hadd
      split
      next he =>
        rw [he] at hadd
        cases hadd
      next next he =>
        have heach : builder.addEach (action :: actions) = next.addEach actions := by
          rw [Builder.addEach, List.foldl_cons, he]
          rfl
        rw [ih, heach]
        rfl
    | some fault =>
      rw [hflaw] at hadd
      split
      next he =>
        rw [he] at hadd
        cases hadd
        rfl
      next he =>
        rw [he] at hadd
        cases hadd

end Builder

theorem Pattern.sizeOf?_eq_error_iff {size : Int} {fault : Fault} :
    sizeOf? size = .error fault ↔ size < 1 ∧ fault = .bare .invalidSize := by
  rw [sizeOf?]
  split
  next h => simp [h, eq_comm]
  next h => simp [h]

theorem Pattern.exists_sizeOf?_iff {size : Int} : (∃ n, sizeOf? size = .ok n) ↔ 1 ≤ size := by
  rw [sizeOf?]
  split <;> simp <;> omega

/-- Whether a list can be painted, why it is given up, and the size of the pattern: all of this
is told by the flaws of the actions and the places of their symbols. -/
theorem map_size_patternOfActions (actions : List Action) :
    (patternOfActions actions).map Pattern.size = match firstFlaw? actions with
      | none => Pattern.sizeOf? (reachOver (-1) (actions.flatMap Action.places) + 1)
      | some fault => .error fault := by
  have hall := Builder.addAll_eq actions Builder.start
  rw [patternOfActions]
  cases hflaw : firstFlaw? actions with
  | some fault =>
    rw [hflaw] at hall
    rw [hall]
    rfl
  | none =>
    rw [hflaw] at hall
    have hreach : (Builder.start.addEach actions).reach =
        reachOver (-1) (actions.flatMap Action.places) := Builder.reach_addAll_eq hall
    rw [hall]
    show (Builder.build _).map _ = _
    rw [Builder.build, hreach]
    cases Pattern.sizeOf? (reachOver (-1) (actions.flatMap Action.places) + 1) <;> rfl

theorem patternOfActions_eq_error_iff {actions : List Action} {fault : Fault} :
    patternOfActions actions = .error fault ↔ FirstFlaw actions fault ∨
      (∀ action ∈ actions, action.Paintable) ∧
        (∀ place ∈ actions.flatMap Action.places, place.x < 0 ∧ place.y < 0) ∧
        fault = .bare .invalidSize := by
  rw [← map_eq_error_iff (f := Pattern.size), map_size_patternOfActions, ← firstFlaw?_eq_some_iff, ← firstFlaw?_eq_none_iff]
  cases firstFlaw? actions with
  | some first => simp
  | none =>
    rw [Pattern.sizeOf?_eq_error_iff, reachOver_lt_iff]
    simp only [reduceCtorEq, true_and, false_or]

theorem exists_patternOfActions_iff {actions : List Action} :
    (∃ pattern, patternOfActions actions = .ok pattern) ↔
      (∀ action ∈ actions, action.Paintable) ∧
        ∃ place ∈ actions.flatMap Action.places, 0 ≤ place.x ∨ 0 ≤ place.y := by
  have hmap : (∃ pattern, patternOfActions actions = .ok pattern) ↔
      ∃ n, (patternOfActions actions).map Pattern.size = .ok n := by
    cases patternOfActions actions <;> simp [Except.map]
  rw [hmap, map_size_patternOfActions, ← firstFlaw?_eq_none_iff]
  cases firstFlaw? actions with
  | some first => simp
  | none =>
    have hinside : 1 ≤ reachOver (-1) (actions.flatMap Action.places) + 1 ↔
        ∃ place ∈ actions.flatMap Action.places, 0 ≤ place.x ∨ 0 ≤ place.y := by
      rw [← Int.not_lt, reachOver_lt_iff]
      simp only [not_forall, not_and_or, Int.not_lt, exists_prop]
    rw [← hinside, Pattern.exists_sizeOf?_iff, and_iff_right rfl]

/-! ### Size -/

/-- The size of a pattern is told by the places of all symbols. -/
theorem size_eq_reachOver {actions : List Action} {pattern : Pattern}
    (h : patternOfActions actions = .ok pattern) :
    (pattern.size : Int) = reachOver (-1) (actions.flatMap Action.places) + 1 := by
  obtain ⟨builder, hadd, hbuild⟩ := bind_eq_ok_iff.mp h
  obtain ⟨size, hsize, rfl⟩ := map_eq_ok_iff.mp hbuild
  have hreach : builder.reach = reachOver (-1) (actions.flatMap Action.places) :=
    Builder.reach_addAll_eq hadd
  rw [← hreach, Pattern.sizeOf?_eq_ok hsize]

theorem one_le_size {actions : List Action} {pattern : Pattern}
    (h : patternOfActions actions = .ok pattern) : 1 ≤ pattern.size := by
  obtain ⟨builder, _, hbuild⟩ := bind_eq_ok_iff.mp h
  obtain ⟨size, hsize, rfl⟩ := map_eq_ok_iff.mp hbuild
  rw [Pattern.sizeOf?] at hsize
  split at hsize
  · cases hsize
  · cases hsize
    dsimp only
    omega

/-- The size is the largest coordinate of any place, counted from 1. -/
theorem isGreatest_size {actions : List Action} {pattern : Pattern}
    (h : patternOfActions actions = .ok pattern) :
    IsGreatest {n : Int | ∃ place ∈ actions.flatMap Action.places, n = max place.x place.y + 1}
      pattern.size := by
  have hpos := one_le_size h
  have hsize := size_eq_reachOver h
  constructor
  -- the reach has gone up from -1, so some place has it
  · rcases reachOver_eq_or (-1) (actions.flatMap Action.places) with hnone | ⟨place, hp, heq⟩
    · omega
    · exact ⟨place, hp, by omega⟩
  · rintro _ ⟨place, hp, rfl⟩
    have hbound : reachOver (-1) (actions.flatMap Action.places) ≤ pattern.size - 1 := by omega
    have hle := (reachOver_le_iff.mp hbound).2 place hp
    omega

/-- A number that is not too small is made smaller, if anything, when it is put into 32 bits. -/
theorem toInt_ofInt_le {n : Int} (h : -2 ^ 31 ≤ n) : (Int32.ofInt n).toInt ≤ n := by
  rw [Int32.toInt_ofInt, Int32.size, Int.bmod_def]
  split <;> omega

theorem cell_le_size {actions : List Action} {pattern : Pattern}
    (h : patternOfActions actions = .ok pattern) {entry : Entry} (he : entry ∈ pattern.entries)
    {cell : Cell} (hc : cell ∈ entry.cells) :
    cell.x.toInt ≤ pattern.size ∧ cell.y.toInt ≤ pattern.size := by
  have hmade : pattern.Made := .painted h
  -- a symbol was dabbed on the cell, and its position is within the size before 32 bits cut it
  obtain ⟨stroke, hs, hdab⟩ := hmade.exists_stroke_iff.mpr ⟨entry, he, rfl, hc⟩
  have hd := mem_of_mem_numbered ((mem_strokes_iff h).mp hs).mem
  rw [← Stroke.dab, hdab] at hd
  have hcolour : entry.strand.colour ≠ noColour := by
    obtain ⟨action, _, ha⟩ := List.mem_flatMap.mp hd
    exact colour_ne_of_mem_dabs ha
  obtain ⟨x, y, hat, rfl⟩ := (mem_flatMap_dabs_iff hcolour).mp hd
  have hle := hat.le_size h
  exact ⟨Int.le_trans (toInt_ofInt_le hat.lower.1) hle.1,
    Int.le_trans (toInt_ofInt_le hat.lower.2) hle.2⟩

/-- A list of actions is given up for its first action that cannot be painted. If all can be, it
is refused if no place lies inside the chart, and else it comes to a pattern. The size of the
pattern is the largest coordinate of all symbols, and no cell lies beyond it. -/
theorem painting_outcome (actions : List Action) :
    (∀ fault, patternOfActions actions = .error fault ↔ FirstFlaw actions fault ∨
      (∀ action ∈ actions, action.Paintable) ∧
        (∀ place ∈ actions.flatMap Action.places, place.x < 0 ∧ place.y < 0) ∧
        fault = .bare .invalidSize) ∧
    ((∃ pattern, patternOfActions actions = .ok pattern) ↔
      (∀ action ∈ actions, action.Paintable) ∧
        ∃ place ∈ actions.flatMap Action.places, 0 ≤ place.x ∨ 0 ≤ place.y) ∧
    ∀ pattern, patternOfActions actions = .ok pattern →
      IsGreatest {n : Int | ∃ place ∈ actions.flatMap Action.places, n = max place.x place.y + 1}
        pattern.size ∧
      ∀ entry ∈ pattern.entries, ∀ cell ∈ entry.cells,
        cell.x.toInt ≤ pattern.size ∧ cell.y.toInt ≤ pattern.size := by
  refine ⟨fun _ => patternOfActions_eq_error_iff, exists_patternOfActions_iff, fun pattern h => ?_⟩
  exact ⟨isGreatest_size h, fun entry he cell hc => cell_le_size h he hc⟩

/-- A drawing that begins outside the chart. Its last symbol is not stitched. -/
def outlying : Action :=
  ⟨(Std.ExtTreeMap.empty.insert 'a' ⟨'a', "red", "red"⟩).insert '-' ⟨'-', noColour, noColour⟩,
    some .crossStitch, ["aa", "aa-"], ⟨-1, -1⟩⟩

/-- The symbol that is not stitched tells the size. After a drawing with an unknown symbol, it
does not matter that a mode is missing. -/
theorem outlying_outcome :
    (∃ pattern, patternOfActions [outlying] = .ok pattern ∧ pattern.size = 2 ∧
      ∀ entry ∈ pattern.entries, ∀ cell ∈ entry.cells, cell.x.toInt ≤ 2 ∧ cell.y.toInt ≤ 2) ∧
    patternOfActions [outlying, { outlying with rows := ["a", "b"] }, { outlying with mode := none }] =
      .error (.chart .symbolUnknown ["a", "b"]) := by
  constructor
  · have hplaces : [outlying].flatMap Action.places =
        [⟨-1, -1⟩, ⟨0, -1⟩, ⟨-1, 0⟩, ⟨0, 0⟩, ⟨1, 0⟩] := by decide +kernel
    obtain ⟨_, hok, hpattern⟩ := painting_outcome [outlying]
    obtain ⟨pattern, h⟩ := hok.mpr ⟨by decide +kernel, by rw [hplaces]; decide⟩
    obtain ⟨hsize, hcells⟩ := hpattern pattern h
    have hle : ∀ place ∈ [outlying].flatMap Action.places, max place.x place.y + 1 ≤ 2 := by
      rw [hplaces]
      decide
    have hge : (2 : Int) ≤ pattern.size := hsize.2 ⟨⟨1, 0⟩, by rw [hplaces]; decide, by decide⟩
    obtain ⟨place, hp, heq⟩ := hsize.1
    have hsame : (pattern.size : Int) = 2 := Int.le_antisymm (heq ▸ hle place hp) hge
    rw [hsame] at hcells
    exact ⟨pattern, h, by omega, hcells⟩
  · refine ((painting_outcome _).1 _).mpr (.inl ⟨[outlying], _, _, rfl, ?_, ?_, rfl⟩)
    · decide +kernel
    · decide +kernel

end CrossStitch
