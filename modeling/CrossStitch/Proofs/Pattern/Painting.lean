import CrossStitch.Pattern.Builder
import CrossStitch.Proofs.Outcome
import CrossStitch.Render.Grid
import Mathlib.Data.List.Induction
import Mathlib.Data.List.Nodup

/-! Painting as a list of dabs. What actions paint is told by the actions alone: one dab
for each symbol that is stitched. The builder sorts the dabs by strand and keeps for
each strand and cell the number of the latest one. So its entries hold the dabs that
were not repeated later, each under its own number. -/

namespace CrossStitch

/-- What one symbol paints. -/
structure Dab where
  cell : Cell
  strand : Strand
  deriving DecidableEq, Repr

/-- A symbol paints nothing if the palette gives it no colour or the reserved one. -/
def Symbol.dab? (palette : Palette) (mode : StitchMode) (offset : Offset) (symbol : Symbol) :
    Option Dab :=
  match palette[symbol.char]? with
  | none => none
  | some dye =>
    if dye.resolved = noColour then none
    else some ⟨(symbol.place offset).cell, ⟨dye.resolved, mode⟩⟩

/-- What an action paints, row by row and from left to right. -/
def Action.dabs (action : Action) : List Dab :=
  match action.mode with
  | none => []
  | some mode => action.symbols.filterMap (Symbol.dab? action.palette mode action.offset)

/-! ### Numbers -/

/-- The dabs as strokes numbered from 1. -/
def numbered (dabs : List Dab) : List Stroke :=
  (dabs.zipIdx 1).map fun (dab, number) => ⟨number, dab.cell, dab.strand⟩

theorem numbered_concat (dabs : List Dab) (dab : Dab) :
    numbered (dabs ++ [dab]) = numbered dabs ++ [⟨dabs.length + 1, dab.cell, dab.strand⟩] := by
  simp [numbered, List.zipIdx_append, Nat.add_comm]

theorem number_le_of_mem {dabs : List Dab} {stroke : Stroke} (h : stroke ∈ numbered dabs) :
    stroke.number ≤ dabs.length := by
  induction dabs using List.reverseRecOn with
  | nil => cases h
  | append_singleton dabs dab ih =>
    rw [numbered_concat, List.mem_append, List.mem_singleton] at h
    rw [List.length_append, List.length_singleton]
    rcases h with h | rfl
    · exact Nat.le_succ_of_le (ih h)
    · exact Nat.le_refl _

/-- The numbers go up. -/
theorem numbered_increasing (dabs : List Dab) :
    (numbered dabs).Pairwise fun a b => a.number < b.number := by
  induction dabs using List.reverseRecOn with
  | nil => exact .nil
  | append_singleton dabs dab ih =>
    rw [numbered_concat, List.pairwise_append]
    refine ⟨ih, List.pairwise_singleton _ _, fun a ha b hb => ?_⟩
    cases List.mem_singleton.mp hb
    exact Nat.lt_succ_of_le (number_le_of_mem ha)

theorem eq_of_number_eq {dabs : List Dab} {a b : Stroke} (ha : a ∈ numbered dabs)
    (hb : b ∈ numbered dabs) (h : a.number = b.number) : a = b := by
  have hd : ((numbered dabs).map Stroke.number).Nodup :=
    List.pairwise_map.mpr ((numbered_increasing dabs).imp Nat.ne_of_lt)
  exact List.inj_on_of_nodup_map hd ha hb h

theorem mem_of_mem_numbered {dabs : List Dab} {stroke : Stroke} (h : stroke ∈ numbered dabs) :
    ⟨stroke.cell, stroke.strand⟩ ∈ dabs := by
  obtain ⟨⟨dab, number⟩, hm, rfl⟩ := List.mem_map.mp h
  exact List.fst_mem_of_mem_zipIdx hm

/-- A stroke that is not made again later with the same strand on the same cell. -/
structure IsLatest (dabs : List Dab) (stroke : Stroke) : Prop where
  mem : stroke ∈ numbered dabs
  last : ∀ other ∈ numbered dabs,
    other.cell = stroke.cell → other.strand = stroke.strand → other.number ≤ stroke.number

/-- A new dab is the latest on its cell and leaves the other cells and strands alone. -/
theorem isLatest_concat {dabs : List Dab} {dab : Dab} {number : Nat} {cell : Cell}
    {strand : Strand} :
    IsLatest (dabs ++ [dab]) ⟨number, cell, strand⟩ ↔
      if dab.cell = cell ∧ dab.strand = strand then number = dabs.length + 1
      else IsLatest dabs ⟨number, cell, strand⟩ := by
  have hnew : ⟨dabs.length + 1, dab.cell, dab.strand⟩ ∈ numbered (dabs ++ [dab]) := by
    simp [numbered_concat]
  have hold : ∀ stroke ∈ numbered dabs, stroke ∈ numbered (dabs ++ [dab]) := by
    intro stroke hs
    rw [numbered_concat]
    exact List.mem_append_left _ hs
  have hcases : ∀ stroke ∈ numbered (dabs ++ [dab]),
      stroke ∈ numbered dabs ∨ stroke = ⟨dabs.length + 1, dab.cell, dab.strand⟩ := by
    intro stroke hs
    simpa [numbered_concat] using hs
  split
  next hsame =>
    obtain ⟨rfl, rfl⟩ := hsame
    constructor
    · rintro ⟨hmem, hlast⟩
      have hle : dabs.length + 1 ≤ number := hlast _ hnew rfl rfl
      have hge := number_le_of_mem hmem
      simp only [List.length_append, List.length_singleton] at hge
      omega
    · rintro rfl
      refine ⟨hnew, fun other ho _ _ => ?_⟩
      simpa using number_le_of_mem ho
  next hother =>
    constructor
    · rintro ⟨hmem, hlast⟩
      rcases hcases _ hmem with hm | hm
      · exact ⟨hm, fun other ho => hlast other (hold other ho)⟩
      · cases hm
        exact absurd ⟨rfl, rfl⟩ hother
    · rintro ⟨hmem, hlast⟩
      refine ⟨hold _ hmem, fun other ho hc hs => ?_⟩
      rcases hcases other ho with ho | rfl
      · exact hlast other ho hc hs
      · exact absurd ⟨hc, hs⟩ hother

/-! ### The builder -/

@[simp] theorem Entry.strand_paint (entry : Entry) (cell : Cell) (number : Nat) :
    (entry.paint cell number).strand = entry.strand := rfl

theorem Entry.getElem?_paint (entry : Entry) (cell other : Cell) (number : Nat) :
    (entry.paint cell number).strokes[other]? =
      if cell = other then some number else entry.strokes[other]? := by
  simp [Entry.paint, Std.ExtTreeMap.getElem?_insert]

namespace Builder

/-- What the builder has come to once the dabs are painted. -/
structure Holds (builder : Builder) (dabs : List Dab) : Prop where
  count : builder.strokes = dabs.length
  index : ∀ (strand : Strand) (i : Nat), builder.index[strand]? = some i ↔
    ∃ entry, builder.entries[i]? = some entry ∧ entry.strand = strand
  latest : ∀ (i : Nat) (entry : Entry), builder.entries[i]? = some entry →
    ∀ (cell : Cell) (number : Nat),
      entry.strokes[cell]? = some number ↔ IsLatest dabs ⟨number, cell, entry.strand⟩
  located : ∀ dab ∈ dabs, ∃ i, builder.index[dab.strand]? = some i

theorem holds_start : start.Holds [] where
  count := rfl
  index := by simp [start]
  latest := by simp [start]
  located := nofun

variable {builder : Builder} {dabs : List Dab}

theorem Holds.extend (h : builder.Holds dabs) (place : Place) : (builder.extend place).Holds dabs :=
  ⟨h.count, h.index, h.latest, h.located⟩

/-- A strand without an entry has not been used. -/
theorem Holds.not_isLatest (h : builder.Holds dabs) {strand : Strand}
    (hnone : builder.index[strand]? = none) (number : Nat) (cell : Cell) :
    ¬ IsLatest dabs ⟨number, cell, strand⟩ := by
  intro hl
  obtain ⟨i, hi⟩ := h.located _ (mem_of_mem_numbered hl.mem)
  rw [hnone] at hi
  cases hi

/-- A new entry for a strand that has none. -/
theorem Holds.push (h : builder.Holds dabs) {strand : Strand}
    (hnone : builder.index[strand]? = none) :
    Holds { builder with
      entries := builder.entries.push (Entry.blank strand)
      index := builder.index.insert strand builder.entries.size } dabs := by
  refine ⟨h.count, ?_, ?_, ?_⟩
  · intro s i
    simp only [Std.ExtTreeMap.getElem?_insert, Array.getElem?_push, Std.compare_eq_iff_eq]
    by_cases hs : strand = s
    · subst hs
      rw [if_pos rfl]
      constructor
      · rintro ⟨⟩
        exact ⟨Entry.blank strand, if_pos rfl, rfl⟩
      · rintro ⟨entry, he, hstrand⟩
        split at he
        next hi => rw [hi]
        next hi =>
          rw [(h.index strand i).mpr ⟨entry, he, hstrand⟩] at hnone
          cases hnone
    · rw [if_neg hs, h.index]
      constructor
      · rintro ⟨entry, he, hstrand⟩
        have hi := (Array.getElem?_eq_some_iff.mp he).1
        exact ⟨entry, by rw [if_neg (Nat.ne_of_lt hi), he], hstrand⟩
      · rintro ⟨entry, he, hstrand⟩
        split at he
        next hi =>
          cases he
          exact absurd hstrand hs
        next hi => exact ⟨entry, he, hstrand⟩
  · intro i entry he cell number
    rw [Array.getElem?_push] at he
    split at he
    next hi =>
      cases he
      have hfresh := h.not_isLatest hnone number cell
      simpa [Entry.blank] using hfresh
    next hi => exact h.latest i entry he cell number
  · intro dab hd
    obtain ⟨i, hi⟩ := h.located dab hd
    rw [Std.ExtTreeMap.getElem?_insert]
    split
    · exact ⟨_, rfl⟩
    · exact ⟨i, hi⟩

/-- Looking up the entry of a strand, and adding it if need be, paints nothing. -/
theorem Holds.locate (h : builder.Holds dabs) (strand : Strand) :
    (builder.locate strand).1.Holds dabs ∧
      (builder.locate strand).1.index[strand]? = some (builder.locate strand).2 := by
  unfold Builder.locate
  split
  next position hposition => exact ⟨h, hposition⟩
  next hnone => exact ⟨h.push hnone, by simp⟩

/-- A stroke with a strand that has its entry. -/
theorem Holds.paint (h : builder.Holds dabs) {strand : Strand} {position : Nat}
    (hp : builder.index[strand]? = some position) (cell : Cell)
    (usage : Std.ExtTreeMap String Usage) :
    Holds { builder with
      entries := builder.entries.modify position fun entry =>
        entry.paint cell (builder.strokes + 1)
      usage := usage
      strokes := builder.strokes + 1 } (dabs ++ [⟨cell, strand⟩]) := by
  obtain ⟨old, hold, hstrand⟩ := (h.index strand position).mp hp
  refine ⟨?_, ?_, ?_, ?_⟩
  · simp [h.count]
  · intro s i
    -- painting changes no entry's strand
    rw [h.index, Array.getElem?_modify]
    split
    next hi =>
      subst hi
      rw [hold]
      constructor
      · rintro ⟨_, ⟨⟩, hs⟩
        exact ⟨_, rfl, hs⟩
      · rintro ⟨_, ⟨⟩, hs⟩
        exact ⟨_, rfl, hs⟩
    · exact Iff.rfl
  · intro i entry he c number
    rw [isLatest_concat]
    rw [Array.getElem?_modify] at he
    split at he
    next hi =>
      subst hi
      rw [hold] at he
      cases he
      rw [Entry.getElem?_paint, Entry.strand_paint, hstrand]
      by_cases hc : cell = c
      · simp [hc, h.count, eq_comm]
      · simp only [hc, if_false, false_and]
        rw [← hstrand]
        exact h.latest position old hold c number
    next hi =>
      have hs : strand ≠ entry.strand := by
        rintro rfl
        rw [(h.index entry.strand i).mpr ⟨entry, he, rfl⟩] at hp
        exact hi (Option.some.inj hp).symm
      simp only [hs, and_false, if_false]
      exact h.latest i entry he c number
  · intro dab hd
    rcases List.mem_append.mp hd with hd | hd
    · exact h.located dab hd
    · cases List.mem_singleton.mp hd
      exact ⟨position, hp⟩

theorem Holds.stroke (h : builder.Holds dabs) (mode : StitchMode) (dye : PaletteEntry)
    (cell : Cell) :
    (builder.stroke mode dye cell).Holds (dabs ++ [⟨cell, ⟨dye.resolved, mode⟩⟩]) := by
  obtain ⟨hl, hp⟩ := h.locate ⟨dye.resolved, mode⟩
  exact hl.paint hp cell _

/-- A drawing that is painted to its end adds its dabs. -/
theorem Holds.paint_symbols {palette : Palette} {mode : StitchMode} {offset : Offset}
    {symbols : List Symbol} (h : builder.Holds dabs) {next : Builder}
    (hp : Builder.paint palette mode offset builder symbols = (next, .ok ())) :
    next.Holds (dabs ++ symbols.filterMap (Symbol.dab? palette mode offset)) := by
  induction symbols generalizing builder dabs with
  | nil =>
    cases hp
    simpa using h
  | cons symbol symbols ih =>
    rw [Builder.paint] at hp
    have hextend := h.extend (symbol.place offset)
    split at hp
    · cases hp
    next dye hdye =>
      split at hp
      next hnone =>
        have hd : symbol.dab? palette mode offset = none := by
          simp [Symbol.dab?, hdye, hnone]
        rw [List.filterMap_cons_none hd]
        exact ih hextend hp
      next hsome =>
        have hd : symbol.dab? palette mode offset =
            some ⟨(symbol.place offset).cell, ⟨dye.resolved, mode⟩⟩ := by
          simp [Symbol.dab?, hdye, hsome]
        rw [List.filterMap_cons_some hd, ← List.singleton_append, ← List.append_assoc]
        exact ih (hextend.stroke mode dye _) hp

theorem Holds.add (h : builder.Holds dabs) {action : Action} {next : Builder}
    (ha : builder.add action = (next, .ok ())) : next.Holds (dabs ++ action.dabs) := by
  rw [Builder.add] at ha
  cases hmode : action.mode with
  | none =>
    rw [hmode] at ha
    cases ha
  | some mode =>
    have hdabs : action.dabs =
        action.symbols.filterMap (Symbol.dab? action.palette mode action.offset) := by
      rw [Action.dabs, hmode]
    rw [hmode] at ha
    rw [hdabs]
    dsimp only at ha
    split at ha
    next painted hpainted =>
      cases ha
      exact h.paint_symbols hpainted
    · cases ha

/-- Painting actions to the end adds the dabs of all of them in order. -/
theorem Holds.addAll {actions : List Action} (h : builder.Holds dabs) {next : Builder}
    (ha : builder.addAll actions = .ok next) : next.Holds (dabs ++ actions.flatMap Action.dabs) := by
  induction actions generalizing builder dabs with
  | nil =>
    cases ha
    simpa using h
  | cons action actions ih =>
    rw [Builder.addAll] at ha
    split at ha
    · cases ha
    next added hadded =>
      rw [List.flatMap_cons, ← List.append_assoc]
      exact ih (h.add hadded) ha

end Builder

/-! ### The pattern -/

theorem Pattern.mem_strokes {pattern : Pattern} {stroke : Stroke} :
    stroke ∈ pattern.strokes ↔ ∃ entry ∈ pattern.entries,
      entry.strokes[stroke.cell]? = some stroke.number ∧ entry.strand = stroke.strand := by
  obtain ⟨number, cell, strand⟩ := stroke
  simp only [Pattern.strokes, List.mem_mergeSort, List.mem_flatMap, List.mem_map, Prod.exists,
    Std.ExtTreeMap.mem_toList_iff_getElem?_eq_some, Stroke.mk.injEq]
  constructor
  · rintro ⟨entry, he, _, _, hs, rfl, rfl, rfl⟩
    exact ⟨entry, he, hs, rfl⟩
  · rintro ⟨entry, he, hs, rfl⟩
    exact ⟨entry, he, cell, number, hs, rfl, rfl, rfl⟩

theorem mem_strokes_iff_of_holds {builder : Builder} {dabs : List Dab} (h : builder.Holds dabs)
    {pattern : Pattern} (hp : pattern.entries = builder.entries.toList) {stroke : Stroke} :
    stroke ∈ pattern.strokes ↔ IsLatest dabs stroke := by
  obtain ⟨number, cell, strand⟩ := stroke
  rw [Pattern.mem_strokes, hp]
  constructor
  · rintro ⟨entry, he, hs, rfl⟩
    obtain ⟨i, hi⟩ := List.mem_iff_getElem?.mp he
    rw [Array.getElem?_toList] at hi
    exact (h.latest i entry hi cell number).mp hs
  · intro hl
    obtain ⟨i, hi⟩ := h.located _ (mem_of_mem_numbered hl.mem)
    obtain ⟨entry, he, hstrand⟩ := (h.index strand i).mp hi
    refine ⟨entry, ?_, (h.latest i entry he cell number).mpr (hstrand ▸ hl), hstrand⟩
    exact Array.mem_toList_iff.mpr (Array.mem_of_getElem? he)

/-- A pattern keeps the latest dabs of the actions it was made of. -/
theorem mem_strokes_iff {actions : List Action} {pattern : Pattern}
    (h : patternOfActions actions = .ok pattern) {stroke : Stroke} :
    stroke ∈ pattern.strokes ↔ IsLatest (actions.flatMap Action.dabs) stroke := by
  obtain ⟨builder, hadd, hbuild⟩ := bind_eq_ok_iff.mp h
  obtain ⟨size, _, rfl⟩ := map_eq_ok_iff.mp hbuild
  have hholds := Builder.holds_start.addAll hadd
  rw [List.nil_append] at hholds
  exact mem_strokes_iff_of_holds hholds rfl

end CrossStitch
