import CrossStitch.Proofs.Pattern.Painting
import Mathlib.Algebra.BigOperators.Group.List.Basic
import Mathlib.Algebra.Ring.Nat

/-! The books of the builder. The entries, their index, the usage table and the stroke
counter are each changed in a different part of a stroke, and a drawing may be given up in
the middle. After any actions, painted to the end or not, they agree with each other and
with the strokes that were made. -/

namespace CrossStitch

/-- A dab and how the palette spelled its colour. -/
structure SpelledDab where
  dab : Dab
  spelling : String
  deriving DecidableEq, Repr

/-- What one symbol paints, with the spelling. -/
def Symbol.spelledDab? (palette : Palette) (mode : StitchMode) (offset : Offset)
    (symbol : Symbol) : Option SpelledDab := do
  let dab ← symbol.dab? palette mode offset
  let dye ← palette[symbol.char]?
  return ⟨dab, dye.raw⟩

/-- The symbols before the first that the palette does not know. -/
def Palette.reached (palette : Palette) (symbols : List Symbol) : List Symbol :=
  symbols.takeWhile fun symbol => palette.contains symbol.char

/-- The strokes that painting an action makes, also when it is given up in the middle. -/
def Action.strokesMade (action : Action) : List SpelledDab :=
  match action.mode with
  | none => []
  | some mode =>
    (action.palette.reached action.symbols).filterMap
      (Symbol.spelledDab? action.palette mode action.offset)

/-- How the last stroke in a colour spelled it. -/
def lastSpelling (made : List SpelledDab) (colour : String) : Option String :=
  (made.filter fun spelled => spelled.dab.strand.colour = colour).getLast?.map
    SpelledDab.spelling

theorem lastSpelling_concat (made : List SpelledDab) (spelled : SpelledDab) (colour : String) :
    lastSpelling (made ++ [spelled]) colour =
      if spelled.dab.strand.colour = colour then some spelled.spelling
      else lastSpelling made colour := by
  by_cases h : spelled.dab.strand.colour = colour <;> simp [lastSpelling, List.filter_append, h]

theorem isSome_lastSpelling {made : List SpelledDab} {colour : String} :
    (lastSpelling made colour).isSome ↔
      ∃ spelled ∈ made, spelled.dab.strand.colour = colour := by
  simp [lastSpelling]

/-! ### Entries -/

namespace Entry

theorem mem_cells_paint {entry : Entry} {cell other : Cell} {number : Nat} :
    other ∈ (entry.paint cell number).cells ↔ cell = other ∨ other ∈ entry.cells := by
  simp [cells, paint, Std.ExtTreeSet.mem_toList, Std.ExtTreeSet.mem_insert]

/-- A cell is counted once. -/
theorem length_cells_paint (entry : Entry) (cell : Cell) (number : Nat) :
    (entry.paint cell number).cells.length =
      if entry.contains cell then entry.cells.length else entry.cells.length + 1 := by
  simp only [cells, paint, contains, Std.ExtTreeSet.length_toList, Std.ExtTreeSet.size_insert]

theorem mem_strokes_paint {entry : Entry} {cell other : Cell} {number : Nat} :
    other ∈ (entry.paint cell number).strokes ↔ cell = other ∨ other ∈ entry.strokes := by
  simp [paint, Std.ExtTreeMap.mem_insert]

/-- The number of cells in the entries of a colour; a cell is counted in each mode. -/
def coverage (entries : List Entry) (colour : String) : Nat :=
  ((entries.filter fun entry => entry.strand.colour = colour).map fun entry =>
    entry.cells.length).sum

theorem coverage_middle (before after : List Entry) (entry : Entry) (colour : String) :
    coverage (before ++ entry :: after) colour = coverage (before ++ after) colour +
      if entry.strand.colour = colour then entry.cells.length else 0 := by
  by_cases h : entry.strand.colour = colour
  · simp [coverage, h]
    omega
  · simp [coverage, h]

/-- The stroke numbers of the cells, cell by cell. -/
def numbers (entry : Entry) : List Nat :=
  entry.strokes.toList.map Prod.snd

theorem mem_numbers {entry : Entry} {number : Nat} :
    number ∈ entry.numbers ↔ ∃ cell : Cell, entry.strokes[cell]? = some number := by
  simp [numbers, Std.ExtTreeMap.mem_toList_iff_getElem?_eq_some]

/-- An entry with cells, and with a stroke number for each of them and for no other. -/
structure Filled (entry : Entry) : Prop where
  cells_ne_nil : entry.cells ≠ []
  mem_cells : ∀ cell, cell ∈ entry.cells ↔ cell ∈ entry.strokes

theorem filled_paint {entry : Entry} (h : ∀ cell, cell ∈ entry.cells ↔ cell ∈ entry.strokes)
    (cell : Cell) (number : Nat) : (entry.paint cell number).Filled where
  cells_ne_nil := List.ne_nil_of_mem (mem_cells_paint.mpr (.inl rfl))
  mem_cells other := by rw [mem_cells_paint, mem_strokes_paint, h]

end Entry

namespace Builder

/-- The builder after painting each of the actions, whether or not it can be painted to
its end. -/
def addEach (builder : Builder) (actions : List Action) : Builder :=
  actions.foldl (fun b action => (b.add action).1) builder

/-- The stroke numbers that the entries keep. -/
def numbers (builder : Builder) : List Nat :=
  builder.entries.toList.flatMap Entry.numbers

/-- What the parts of a builder say of each other and of the strokes made. -/
structure Consistent (builder : Builder) (made : List SpelledDab) : Prop where
  /-- No strand has two entries. -/
  strands_nodup : (builder.entries.toList.map Entry.strand).Nodup
  /-- The index leads to the entry of a strand. -/
  index : ∀ (strand : Strand) (i : Nat), builder.index[strand]? = some i ↔
    ∃ entry, builder.entries[i]? = some entry ∧ entry.strand = strand
  cells_ne_nil : ∀ entry ∈ builder.entries, entry.cells ≠ []
  mem_cells_iff : ∀ entry ∈ builder.entries, ∀ cell, cell ∈ entry.cells ↔ cell ∈ entry.strokes
  numbers_nodup : builder.numbers.Nodup
  numbers_le : ∀ number ∈ builder.numbers, number ≤ builder.strokes
  /-- The usage table has the colours of the entries. -/
  mem_usage_iff : ∀ colour, colour ∈ builder.usage ↔
    ∃ entry ∈ builder.entries, entry.strand.colour = colour
  noColour_not_mem : noColour ∉ builder.usage
  count : ∀ colour usage, builder.usage[colour]? = some usage →
    usage.count = Entry.coverage builder.entries.toList colour
  label : ∀ colour usage, builder.usage[colour]? = some usage →
    lastSpelling made colour = some usage.label

/-! ### Runs of strokes -/

/-- What extending the reach keeps, and one stroke keeps for the stroke added. -/
structure Kept (P : Builder → List SpelledDab → Prop) : Prop where
  extend : ∀ {builder made}, P builder made → ∀ place, P (builder.extend place) made
  stroke : ∀ {builder made}, P builder made → ∀ mode (dye : PaletteEntry) cell,
    dye.resolved ≠ noColour →
      P (builder.stroke mode dye cell) (made ++ [⟨⟨cell, ⟨dye.resolved, mode⟩⟩, dye.raw⟩])

variable {P : Builder → List SpelledDab → Prop} {builder : Builder} {made : List SpelledDab}

theorem Kept.paint (hk : Kept P) (h : P builder made) (palette : Palette) (mode : StitchMode)
    (offset : Offset) (symbols : List Symbol) :
    P (Builder.paint palette mode offset builder symbols).1
      (made ++ (palette.reached symbols).filterMap (Symbol.spelledDab? palette mode offset)) := by
  induction symbols generalizing builder made with
  | nil => simpa [Builder.paint, Palette.reached] using h
  | cons symbol symbols ih =>
    have hextend := hk.extend h (symbol.place offset)
    have hc : palette.contains symbol.char = palette[symbol.char]?.isSome :=
      Std.ExtTreeMap.contains_eq_isSome_getElem?
    rw [Builder.paint]
    cases hdye : palette[symbol.char]? with
    | none => simpa [Palette.reached, hc, hdye] using hextend
    | some dye =>
      have hr : palette.reached (symbol :: symbols) = symbol :: palette.reached symbols := by
        simp [Palette.reached, hc, hdye]
      rw [hr]
      dsimp only
      split
      next hnone =>
        have hd : symbol.spelledDab? palette mode offset = none := by
          simp [Symbol.spelledDab?, Symbol.dab?, hdye, hnone]
        rw [List.filterMap_cons_none hd]
        exact ih hextend
      next hsome =>
        have hd : symbol.spelledDab? palette mode offset =
            some ⟨⟨(symbol.place offset).cell, ⟨dye.resolved, mode⟩⟩, dye.raw⟩ := by
          simp [Symbol.spelledDab?, Symbol.dab?, hdye, hsome]
        rw [List.filterMap_cons_some hd, ← List.singleton_append, ← List.append_assoc]
        exact ih (hk.stroke hextend mode dye _ hsome)

theorem Kept.add (hk : Kept P) (h : P builder made) (action : Action) :
    P (builder.add action).1 (made ++ action.strokesMade) := by
  rw [Builder.add, Action.strokesMade]
  cases action.mode with
  | none => simpa using h
  | some mode =>
    have hp := hk.paint h action.palette mode action.offset action.symbols
    dsimp only
    split
    next he => rwa [he] at hp
    next he => rwa [he] at hp

theorem Kept.addEach (hk : Kept P) (h : P builder made) (actions : List Action) :
    P (builder.addEach actions) (made ++ actions.flatMap Action.strokesMade) := by
  induction actions generalizing builder made with
  | nil => simpa [Builder.addEach] using h
  | cons action actions ih =>
    rw [List.flatMap_cons, ← List.append_assoc]
    exact ih (hk.add h action)

/-! ### One stroke -/

/-- Modifying one element of a list leaves the others. -/
theorem modify_of_getElem? {α : Type} {l : List α} {i : Nat} {a : α} (h : l[i]? = some a)
    (f : α → α) :
    ∃ before after, l = before ++ a :: after ∧ before.length = i ∧
      l.modify i f = before ++ f a :: after := by
  obtain ⟨hlt, rfl⟩ := List.getElem?_eq_some_iff.mp h
  obtain ⟨before, old, after, hl, hlength, hmodify⟩ := List.exists_of_modify f hlt
  have hold : l[i] = old := by
    simp [hl, ← hlength]
  exact ⟨before, after, hold ▸ hl, hlength, hold ▸ hmodify⟩

/-- What a stroke does. It paints the entry of its strand, which is a new one at the end if
the strand had none, and notes the use of the colour. -/
theorem Holds.stroke_eq {dabs : List Dab} (h : builder.Holds dabs) (mode : StitchMode)
    (dye : PaletteEntry) (cell : Cell) :
    ∃ before old after, old.strand = ⟨dye.resolved, mode⟩ ∧
      (builder.entries.toList = before ++ old :: after ∨
        builder.entries.toList = before ++ after ∧ old = Entry.blank ⟨dye.resolved, mode⟩) ∧
      (builder.stroke mode dye cell).entries.toList =
        before ++ old.paint cell (builder.strokes + 1) :: after ∧
      (builder.stroke mode dye cell).usage =
        noteUsage builder.usage dye (!old.contains cell) := by
  let painted (entry : Entry) : Entry := entry.paint cell (builder.strokes + 1)
  unfold Builder.stroke Builder.locate
  cases hp : builder.index[(⟨dye.resolved, mode⟩ : Strand)]? with
  | some position =>
    obtain ⟨old, hold, hstrand⟩ := (h.index _ position).mp hp
    obtain ⟨before, after, hlist, _, hmodify⟩ :=
      modify_of_getElem? (Array.getElem?_toList.trans hold) painted
    refine ⟨before, old, after, hstrand, .inl hlist, ?_, ?_⟩
    · rw [← hmodify, Array.toList_modify]
    · simp [hold]
  | none =>
    have hlast : (builder.entries.toList ++ [Entry.blank ⟨dye.resolved, mode⟩])[
        builder.entries.size]? = some (Entry.blank ⟨dye.resolved, mode⟩) := by simp
    obtain ⟨before, after, hlist, hlength, hmodify⟩ := modify_of_getElem? hlast painted
    obtain ⟨rfl, hafter⟩ := List.append_inj hlist (by simp [hlength])
    cases hafter
    refine ⟨_, _, [], rfl, .inr ⟨(List.append_nil _).symm, rfl⟩, ?_, ?_⟩
    · rw [← hmodify, Array.toList_modify, Array.toList_push]
    · simp

/-! ### The books -/

/-- The invariant of the books, over the strokes made. -/
structure Books (builder : Builder) (made : List SpelledDab) : Prop where
  holds : builder.Holds (made.map SpelledDab.dab)
  filled : ∀ entry ∈ builder.entries.toList, entry.Filled
  count : ∀ colour, (builder.usage[colour]?.map Usage.count).getD 0 =
    Entry.coverage builder.entries.toList colour
  label : ∀ colour, builder.usage[colour]?.map Usage.label = lastSpelling made colour
  coloured : ∀ spelled ∈ made, spelled.dab.strand.colour ≠ noColour

theorem books_start : start.Books [] where
  holds := holds_start
  filled := nofun
  count := by simp [start, Entry.coverage]
  label := by simp [start, lastSpelling]
  coloured := nofun

theorem Books.extend (h : builder.Books made) (place : Place) : (builder.extend place).Books made :=
  ⟨h.holds.extend place, h.filled, h.count, h.label, h.coloured⟩

theorem getElem?_noteUsage (usage : Std.ExtTreeMap String Usage) (dye : PaletteEntry)
    (fresh : Bool) (colour : String) :
    (noteUsage usage dye fresh)[colour]? =
      if dye.resolved = colour then
        some ⟨dye.raw, (usage[colour]?.map Usage.count).getD 0 + if fresh then 1 else 0⟩
      else usage[colour]? := by
  rw [noteUsage, Std.ExtTreeMap.getElem?_insert]
  by_cases h : dye.resolved = colour
  · subst h
    cases fresh <;> simp
  · simp [h]

/-- After a stroke all entries are filled again, also one that is new. -/
theorem Books.filled_stroke (h : builder.Books made) (mode : StitchMode) (dye : PaletteEntry)
    (cell : Cell) : ∀ entry ∈ (builder.stroke mode dye cell).entries.toList, entry.Filled := by
  obtain ⟨before, old, after, _, hfrom, hentries, _⟩ := h.holds.stroke_eq mode dye cell
  have hold : ∀ cell, cell ∈ old.cells ↔ cell ∈ old.strokes := by
    rcases hfrom with hfrom | ⟨_, rfl⟩
    · exact (h.filled old (by simp [hfrom])).mem_cells
    · simp [Entry.blank, Entry.cells]
  have hothers : ∀ entry, entry ∈ before ∨ entry ∈ after → entry.Filled := by
    intro entry he
    apply h.filled
    rcases hfrom with hfrom | ⟨hfrom, _⟩
    · rw [hfrom, List.mem_append, List.mem_cons]
      exact he.imp_right .inr
    · rwa [hfrom, List.mem_append]
  intro entry he
  rw [hentries, List.mem_append, List.mem_cons] at he
  rcases he with he | rfl | he
  · exact hothers entry (.inl he)
  · exact Entry.filled_paint hold cell _
  · exact hothers entry (.inr he)

/-- The count of a colour goes up when its coverage does. -/
theorem Books.count_stroke (h : builder.Books made) (mode : StitchMode) (dye : PaletteEntry)
    (cell : Cell) (colour : String) :
    ((builder.stroke mode dye cell).usage[colour]?.map Usage.count).getD 0 =
      Entry.coverage (builder.stroke mode dye cell).entries.toList colour := by
  obtain ⟨before, old, after, hstrand, hfrom, hentries, husage⟩ :=
    h.holds.stroke_eq mode dye cell
  have hcolour : old.strand.colour = dye.resolved := by rw [hstrand]
  -- an entry without cells makes no difference, so it is as if a new one had been there before
  have hcoverage : Entry.coverage builder.entries.toList colour =
      Entry.coverage (before ++ after) colour +
        if dye.resolved = colour then old.cells.length else 0 := by
    rcases hfrom with hfrom | ⟨hfrom, rfl⟩
    · rw [hfrom, Entry.coverage_middle, hcolour]
    · simp [hfrom, Entry.blank, Entry.cells]
  rw [hentries, husage, getElem?_noteUsage, Entry.coverage_middle, Entry.strand_paint,
    Entry.length_cells_paint, hcolour]
  split
  next hsame =>
    rw [Option.map_some, Option.getD_some, h.count, hcoverage, if_pos hsame]
    cases old.contains cell <;> rfl
  next hother => rw [h.count, hcoverage, if_neg hother]

theorem Books.stroke (h : builder.Books made) (mode : StitchMode) (dye : PaletteEntry)
    (cell : Cell) (hc : dye.resolved ≠ noColour) :
    (builder.stroke mode dye cell).Books
      (made ++ [⟨⟨cell, ⟨dye.resolved, mode⟩⟩, dye.raw⟩]) where
  holds := by simpa using h.holds.stroke mode dye cell
  filled := h.filled_stroke mode dye cell
  count := h.count_stroke mode dye cell
  label colour := by
    obtain ⟨_, old, _, _, _, _, husage⟩ := h.holds.stroke_eq mode dye cell
    rw [husage, lastSpelling_concat, ← h.label, getElem?_noteUsage]
    split <;> rfl
  coloured spelled hs := by
    rcases List.mem_append.mp hs with hs | hs
    · exact h.coloured spelled hs
    · cases List.mem_singleton.mp hs
      exact hc

theorem kept_books : Kept Books :=
  ⟨fun h place => h.extend place, fun h mode dye cell hc => h.stroke mode dye cell hc⟩

/-! ### What the books say -/

theorem Holds.strands_nodup {dabs : List Dab} (h : builder.Holds dabs) :
    (builder.entries.toList.map Entry.strand).Nodup := by
  rw [List.Nodup, List.pairwise_map, List.pairwise_iff_getElem]
  intro i j hi hj hij hstrand
  have hindex : ∀ (k : Nat) (hk : k < builder.entries.toList.length),
      builder.index[builder.entries.toList[k].strand]? = some k := by
    intro k hk
    refine (h.index _ k).mpr ⟨_, ?_, rfl⟩
    rw [← Array.getElem?_toList, List.getElem?_eq_getElem hk]
  have hi' := hindex i hi
  rw [hstrand, hindex j hj] at hi'
  exact Nat.ne_of_lt hij (Option.some.inj hi').symm

theorem Holds.isLatest_of_mem {dabs : List Dab} (h : builder.Holds dabs) {entry : Entry}
    (he : entry ∈ builder.entries.toList) {cell : Cell} {number : Nat} :
    entry.strokes[cell]? = some number ↔ IsLatest dabs ⟨number, cell, entry.strand⟩ := by
  obtain ⟨i, hi⟩ := List.mem_iff_getElem?.mp he
  rw [Array.getElem?_toList] at hi
  exact h.latest i entry hi cell number

theorem Holds.numbers_nodup {dabs : List Dab} (h : builder.Holds dabs) :
    builder.numbers.Nodup := by
  -- a number stands for one stroke, so for one cell of one strand
  have hsame : ∀ a ∈ builder.entries.toList, ∀ b ∈ builder.entries.toList,
      ∀ (c d : Cell) (number : Nat), a.strokes[c]? = some number → b.strokes[d]? = some number →
        a.strand = b.strand ∧ c = d := by
    intro a ha b hb c d number hc hd
    have hstroke := eq_of_number_eq ((h.isLatest_of_mem ha).mp hc).mem
      ((h.isLatest_of_mem hb).mp hd).mem rfl
    exact ⟨congrArg Stroke.strand hstroke, congrArg Stroke.cell hstroke⟩
  rw [Builder.numbers, List.nodup_flatMap]
  constructor
  · intro entry he
    rw [Entry.numbers, List.Nodup, List.pairwise_map]
    refine List.Pairwise.imp_of_mem ?_ Std.ExtTreeMap.distinct_keys_toList
    rintro ⟨c, m⟩ ⟨d, n⟩ hc hd hne rfl
    rw [Std.ExtTreeMap.mem_toList_iff_getElem?_eq_some] at hc hd
    exact hne (Std.LawfulEqCmp.compare_eq_iff_eq.mpr (hsame entry he entry he c d m hc hd).2)
  · have hstrands := h.strands_nodup
    rw [List.Nodup, List.pairwise_map] at hstrands
    refine hstrands.imp_of_mem ?_
    intro a b ha hb hne number hm hn
    obtain ⟨c, hc⟩ := Entry.mem_numbers.mp hm
    obtain ⟨d, hd⟩ := Entry.mem_numbers.mp hn
    exact hne (hsame a ha b hb c d number hc hd).1

theorem Holds.numbers_le {dabs : List Dab} (h : builder.Holds dabs) :
    ∀ number ∈ builder.numbers, number ≤ builder.strokes := by
  intro number hn
  obtain ⟨entry, he, hn⟩ := List.mem_flatMap.mp hn
  obtain ⟨cell, hc⟩ := Entry.mem_numbers.mp hn
  rw [h.count]
  exact number_le_of_mem ((h.isLatest_of_mem he).mp hc).mem

theorem Books.mem_usage_iff_made (h : builder.Books made) (colour : String) :
    colour ∈ builder.usage ↔ ∃ spelled ∈ made, spelled.dab.strand.colour = colour := by
  rw [← isSome_lastSpelling, ← h.label, Option.isSome_map,
    Std.ExtTreeMap.isSome_getElem?_iff_mem]

theorem Books.mem_usage_iff (h : builder.Books made) (colour : String) :
    colour ∈ builder.usage ↔ ∃ entry ∈ builder.entries, entry.strand.colour = colour := by
  rw [h.mem_usage_iff_made]
  constructor
  · rintro ⟨spelled, hs, rfl⟩
    obtain ⟨i, hi⟩ := h.holds.located _ (List.mem_map_of_mem hs)
    obtain ⟨entry, he, hstrand⟩ := (h.holds.index _ i).mp hi
    exact ⟨entry, Array.mem_of_getElem? he, by rw [hstrand]⟩
  · rintro ⟨entry, he, rfl⟩
    have he := Array.mem_toList_iff.mpr he
    obtain ⟨hne, hcells⟩ := h.filled entry he
    obtain ⟨cell, hcell⟩ := List.exists_mem_of_ne_nil _ hne
    obtain ⟨number, hn⟩ := Option.isSome_iff_exists.mp
      (Std.ExtTreeMap.isSome_getElem?_iff_mem.mpr ((hcells cell).mp hcell))
    have hd := mem_of_mem_numbered ((h.holds.isLatest_of_mem he).mp hn).mem
    obtain ⟨spelled, hs, hdab⟩ := List.mem_map.mp hd
    exact ⟨spelled, hs, by rw [hdab]⟩

theorem Books.consistent (h : builder.Books made) : builder.Consistent made where
  strands_nodup := h.holds.strands_nodup
  index := h.holds.index
  cells_ne_nil entry he := (h.filled entry (Array.mem_toList_iff.mpr he)).cells_ne_nil
  mem_cells_iff entry he := (h.filled entry (Array.mem_toList_iff.mpr he)).mem_cells
  numbers_nodup := h.holds.numbers_nodup
  numbers_le := h.holds.numbers_le
  mem_usage_iff := h.mem_usage_iff
  noColour_not_mem hm := by
    obtain ⟨spelled, hs, hcolour⟩ := (h.mem_usage_iff_made _).mp hm
    exact h.coloured spelled hs hcolour
  count colour usage hu := by
    rw [← h.count, hu]
    rfl
  label colour usage hu := by
    rw [← h.label, hu]
    rfl

/-- Whatever actions are painted, and wherever their painting is given up, the parts of the
builder are consistent with each other and with the strokes made. -/
theorem addEach_consistent (actions : List Action) :
    (start.addEach actions).Consistent (actions.flatMap Action.strokesMade) := by
  have h := kept_books.addEach books_start actions
  rw [List.nil_append] at h
  exact h.consistent

end Builder

end CrossStitch
