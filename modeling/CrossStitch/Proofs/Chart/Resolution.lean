import CrossStitch.Proofs.Action.Source
import CrossStitch.Proofs.Pattern.Size

/-! Charts and colour tables. A session looks a colour up when it reads a palette line, puts what
it finds into the palette and never asks for it again. So with another table it does the same and
fails alike, and only the colours in its palettes are others. Painting leaves out the symbols
that have no colour, but not before it has seen where they lie, and so not even the size of a
pattern depends on the table. -/

namespace CrossStitch

/-- The entry with the colour that the table makes of its spelling. -/
def PaletteEntry.resolvedIn (colours : ColourTable) (entry : PaletteEntry) : PaletteEntry :=
  { entry with resolved := colours.resolveOrLiteral entry.raw }

def Palette.resolvedIn (colours : ColourTable) (palette : Palette) : Palette :=
  palette.map fun _ entry => entry.resolvedIn colours

def Action.resolvedIn (colours : ColourTable) (action : Action) : Action :=
  { action with palette := action.palette.resolvedIn colours }

def Session.resolvedIn (colours : ColourTable) (session : Session) : Session where
  current := session.current.resolvedIn colours
  committed := session.committed.map (Action.resolvedIn colours)

/-- Two actions that differ at most in what the colours of their palettes stand for. -/
structure Action.SameButColours (action other : Action) : Prop where
  mode : action.mode = other.mode
  rows : action.rows = other.rows
  offset : action.offset = other.offset
  spelled : ∀ symbol : Char,
    (action.palette[symbol]?.map fun entry => (entry.symbol, entry.raw)) =
      other.palette[symbol]?.map fun entry => (entry.symbol, entry.raw)

variable (colours other : ColourTable)

/-! ### Another table -/

theorem Palette.resolvedIn_empty : (∅ : Palette).resolvedIn other = ∅ := by
  apply Std.ExtTreeMap.ext_getElem?
  intro symbol
  rw [resolvedIn, Std.ExtTreeMap.getElem?_map]
  simp

theorem Palette.resolvedIn_insert (palette : Palette) (entry : PaletteEntry) :
    Palette.resolvedIn other (palette.insert entry.symbol entry) =
      (palette.resolvedIn other).insert entry.symbol (entry.resolvedIn other) := by
  apply Std.ExtTreeMap.ext_getElem?
  intro symbol
  rw [resolvedIn, resolvedIn, Std.ExtTreeMap.getElem?_map, Std.ExtTreeMap.getElem?_insert,
    Std.ExtTreeMap.getElem?_insert, Std.ExtTreeMap.getElem?_map]
  split <;> rfl

namespace Session

theorem readAssignment_resolvedIn (palette : Palette) (line : String) :
    readAssignment other (palette.resolvedIn other) line =
      (readAssignment colours palette line).map (PaletteEntry.resolvedIn other) := by
  unfold readAssignment
  split
  · rfl
  next symbol colour _ =>
    rw [Palette.resolvedIn, Std.ExtTreeMap.contains_map]
    split <;> rfl
  · rfl

/-- A palette is read up to the same line. -/
theorem readPalette_resolvedIn (palette : Palette) (lines : List String) :
    readPalette other (palette.resolvedIn other) lines =
      (readPalette colours palette lines).map (Palette.resolvedIn other) id := by
  induction lines generalizing palette with
  | nil => rfl
  | cons line lines ih =>
    rw [readPalette, readPalette, readAssignment_resolvedIn colours other]
    cases readAssignment colours palette line with
    | error kind => rfl
    | ok entry =>
      -- the entry is put in under its symbol, which does not depend on the table
      dsimp only [Except.map]
      rw [← ih, Palette.resolvedIn_insert]
      rfl

theorem takePattern_resolvedIn (action : Action) (lines : List String) :
    takePattern (action.resolvedIn other) lines =
      (takePattern action lines).map (Action.resolvedIn other) := by
  have hpattern : (action.resolvedIn other).hasPattern = action.hasPattern := rfl
  rw [takePattern, takePattern, hpattern]
  split <;> rfl

theorem takeMode_resolvedIn (action : Action) (lines : List String) :
    takeMode (action.resolvedIn other) lines =
      (takeMode action lines).map (Action.resolvedIn other) := by
  have hmode : (action.resolvedIn other).mode = action.mode := rfl
  unfold takeMode
  split
  · split
    · rfl
    · rw [hmode]
      split <;> rfl
  · rfl

theorem takeOffset_resolvedIn (action : Action) (lines : List String) :
    takeOffset (action.resolvedIn other) lines =
      (takeOffset action lines).map (Action.resolvedIn other) := by
  unfold takeOffset
  split
  · split
    · rfl
    next left right _ =>
      cases readNumber left with
      | error fault => rfl
      | ok x => cases readNumber right <;> rfl
  · rfl

theorem commit_resolvedIn (session : Session) (block : Block) :
    (session.resolvedIn other).commit block =
      (session.commit block).map (Session.resolvedIn other) := by
  have hpattern : (session.resolvedIn other).current.hasPattern = session.current.hasPattern := rfl
  have hmode : (session.resolvedIn other).current.mode = session.current.mode := rfl
  rw [commit, commit, hpattern, hmode]
  split
  · rfl
  · split
    · rfl
    · split
      · rfl
      · simp [resolvedIn, Action.resolvedIn, Except.map]

variable {other}

theorem settle_resolvedIn (session : Session) (block : Block)
    {result same : Except ChartFault Session}
    (h : same = result.map (Session.resolvedIn other)) :
    (session.resolvedIn other).settle block same =
      (session.settle block result).map (Session.resolvedIn other) id := by
  subst h
  cases result <;> rfl

theorem settleCurrent_resolvedIn (session : Session) (block : Block)
    {result same : Except ChartFault Action}
    (h : same = result.map (Action.resolvedIn other)) :
    (session.resolvedIn other).settleCurrent block same =
      (session.settleCurrent block result).map (Session.resolvedIn other) id := by
  subst h
  cases result <;> rfl

variable (other)

/-- A block is accepted or refused whatever the table, and for the same reason. -/
theorem feed_resolvedIn (session : Session) (block : Block) :
    (session.resolvedIn other).feed other block =
      (session.feed colours block).map (Session.resolvedIn other) id := by
  cases hk : BlockKind.ofWord? block.mode with
  | none =>
    rw [feed, feed, hk]
    exact settle_resolvedIn session block rfl
  | some kind =>
    rw [feed, feed, hk]
    cases kind with
    | palette =>
      have hread := readPalette_resolvedIn colours other ∅ block.lines
      rw [Palette.resolvedIn_empty] at hread
      dsimp only
      rw [hread]
      rcases readPalette colours ∅ block.lines with ⟨palette, _ | kind⟩ <;> rfl
    | pattern => exact settleCurrent_resolvedIn session block (takePattern_resolvedIn other _ _)
    | mode => exact settleCurrent_resolvedIn session block (takeMode_resolvedIn other _ _)
    | offset => exact settleCurrent_resolvedIn session block (takeOffset_resolvedIn other _ _)
    | action => exact settle_resolvedIn session block (commit_resolvedIn other _ _)

theorem feedAll_resolvedIn (session : Session) (blocks : List Block) :
    (session.resolvedIn other).feedAll other blocks =
      (session.feedAll colours blocks).map (Session.resolvedIn other) := by
  induction blocks generalizing session with
  | nil => rfl
  | cons block blocks ih =>
    rw [feedAll, feedAll, feed_resolvedIn colours other]
    rcases session.feed colours block with ⟨next, fault | _⟩
    · rfl
    · exact ih next

theorem finish_resolvedIn (session : Session) :
    (session.resolvedIn other).finish =
      session.finish.map (List.map (Action.resolvedIn other)) := by
  have hpattern : (session.resolvedIn other).current.hasPattern = session.current.hasPattern := rfl
  rw [finish, finish, hpattern]
  split <;> rfl

end Session

theorem actionsOfBlocks_resolvedIn (blocks : List Block) :
    actionsOfBlocks other blocks =
      (actionsOfBlocks colours blocks).map (List.map (Action.resolvedIn other)) := by
  have hstart : Session.start.resolvedIn other = Session.start := by
    rw [Session.start, Session.resolvedIn, Action.resolvedIn]
    exact congrArg (fun palette => (⟨{ Action.blank with palette }, []⟩ : Session))
      (Palette.resolvedIn_empty other)
  have hfeed := Session.feedAll_resolvedIn colours other Session.start blocks
  rw [hstart] at hfeed
  rw [actionsOfBlocks, actionsOfBlocks, hfeed]
  cases Session.start.feedAll colours blocks with
  | error fault => rfl
  | ok session => exact session.finish_resolvedIn other

theorem committedActions_resolvedIn (blocks : List Block) :
    committedActions other blocks =
      (committedActions colours blocks).map (List.map (Action.resolvedIn other)) := by
  rw [committedActions, committedActions, actionsOfBlocks_resolvedIn colours other]
  cases blocks with
  | nil => rfl
  | cons block blocks =>
    cases actionsOfBlocks colours (block :: blocks) with
    | error fault => rfl
    | ok actions => cases actions <;> rfl

/-- With another table a chart commits the same actions in the colours of that table. -/
theorem parseActions_resolvedIn (includes : Includes) (source : String) :
    parseActions ⟨other, includes⟩ source =
      (parseActions ⟨colours, includes⟩ source).map (List.map (Action.resolvedIn other)) := by
  rw [parseActions_eq_bind, parseActions_eq_bind]
  cases readAll includes (sourceLines 0 source) with
  | error fault => rfl
  | ok blocks => exact committedActions_resolvedIn colours other blocks

theorem Action.sameButColours_resolvedIn (action : Action) :
    action.SameButColours (action.resolvedIn other) := by
  refine ⟨rfl, rfl, rfl, fun symbol => ?_⟩
  rw [resolvedIn, Palette.resolvedIn, Std.ExtTreeMap.getElem?_map, Option.map_map]
  rfl

/-! ### Painting with another table -/

theorem Action.flaw?_resolvedIn (action : Action) :
    (action.resolvedIn other).flaw? = action.flaw? := by
  have hknown : ∀ symbol : Char,
      (action.palette.resolvedIn other).contains symbol = action.palette.contains symbol :=
    fun symbol => Std.ExtTreeMap.contains_map
  simp only [flaw?, resolvedIn, hknown]
  rfl

/-- The colours are no reason to give a list up, and have no part in the size. -/
theorem map_size_resolvedIn (actions : List Action) :
    (patternOfActions (actions.map (Action.resolvedIn other))).map Pattern.size =
      (patternOfActions actions).map Pattern.size := by
  have hflaw : firstFlaw? (actions.map (Action.resolvedIn other)) = firstFlaw? actions := by
    rw [firstFlaw?, List.findSome?_map]
    exact congrArg (actions.findSome? ·) (funext (Action.flaw?_resolvedIn other))
  have hplaces : (actions.map (Action.resolvedIn other)).flatMap Action.places =
      actions.flatMap Action.places := by
    rw [List.flatMap_map]
    rfl
  rw [map_size_patternOfActions, map_size_patternOfActions, hflaw, hplaces]

theorem map_size_parsePattern (includes : Includes)
    (source : String) :
    (parsePattern ⟨colours, includes⟩ source).map Pattern.size =
      (parsePattern ⟨other, includes⟩ source).map Pattern.size := by
  rw [parsePattern_eq_bind, parsePattern_eq_bind, parseActions_resolvedIn colours other]
  cases parseActions ⟨colours, includes⟩ source with
  | error fault => rfl
  | ok actions => exact (map_size_resolvedIn other actions).symm

/-! ### Tables that agree on what is written -/

variable {colours other}

theorem readAssignment_congr {line : String}
    (h : ∀ raw, spelling? line = some raw →
      colours.resolveOrLiteral raw = other.resolveOrLiteral raw) (palette : Palette) :
    Session.readAssignment colours palette line = Session.readAssignment other palette line := by
  rw [spelling?] at h
  unfold Session.readAssignment
  split
  · rfl
  next symbol colour hpair =>
    rw [hpair] at h
    dsimp only
    rw [h _ rfl]
  · rfl

theorem readPalette_congr {lines : List String}
    (h : ∀ raw ∈ lines.filterMap spelling?,
      colours.resolveOrLiteral raw = other.resolveOrLiteral raw) (palette : Palette) :
    Session.readPalette colours palette lines = Session.readPalette other palette lines := by
  induction lines generalizing palette with
  | nil => rfl
  | cons line lines ih =>
    have hline : ∀ raw, spelling? line = some raw →
        colours.resolveOrLiteral raw = other.resolveOrLiteral raw :=
      fun raw hr => h raw (List.mem_filterMap.mpr ⟨line, List.mem_cons_self, hr⟩)
    have hlines : ∀ raw ∈ lines.filterMap spelling?,
        colours.resolveOrLiteral raw = other.resolveOrLiteral raw := by
      intro raw hr
      obtain ⟨later, hl, hs⟩ := List.mem_filterMap.mp hr
      exact h raw (List.mem_filterMap.mpr ⟨later, List.mem_cons_of_mem line hl, hs⟩)
    rw [Session.readPalette, Session.readPalette, readAssignment_congr hline]
    split
    · rfl
    · exact ih hlines _

theorem feed_congr {block : Block}
    (h : ∀ raw ∈ block.spellings, colours.resolveOrLiteral raw = other.resolveOrLiteral raw)
    (session : Session) : session.feed colours block = session.feed other block := by
  rw [Session.feed, Session.feed]
  split
  · rfl
  next hk =>
    rw [Block.spellings, if_pos hk] at h
    rw [readPalette_congr h]
  all_goals rfl

theorem feedAll_congr {blocks : List Block}
    (h : ∀ raw ∈ blocks.flatMap Block.spellings,
      colours.resolveOrLiteral raw = other.resolveOrLiteral raw) (session : Session) :
    session.feedAll colours blocks = session.feedAll other blocks := by
  induction blocks generalizing session with
  | nil => rfl
  | cons block blocks ih =>
    rw [List.flatMap_cons, List.forall_mem_append] at h
    rw [Session.feedAll, Session.feedAll, feed_congr h.1]
    split
    · rfl
    · exact ih h.2 _

theorem parsePattern_congr {includes : Includes} {source : String}
    (h : ∀ raw ∈ (readBlocks includes (sourceLines 0 source)).1.flatMap Block.spellings,
      colours.resolveOrLiteral raw = other.resolveOrLiteral raw) :
    parsePattern ⟨colours, includes⟩ source = parsePattern ⟨other, includes⟩ source := by
  rw [parsePattern_eq_bind, parsePattern_eq_bind, parseActions_eq_bind, parseActions_eq_bind]
  cases hread : readAll includes (sourceLines 0 source) with
  | error fault => rfl
  | ok blocks =>
    rw [readAll_eq_ok_iff.mp hread] at h
    have hactions : committedActions colours blocks = committedActions other blocks := by
      rw [committedActions, committedActions, actionsOfBlocks, actionsOfBlocks, feedAll_congr h]
    exact congrArg (· >>= patternOfActions) hactions

/-- A colour table does not decide whether a chart is valid. With two tables a chart fails alike,
or it commits the same actions but for their colours, and patterns of the same size. The pattern
is the same if the tables make the same of every colour that the chart writes. -/
theorem colours_do_not_decide_validity (colours other : ColourTable) (includes : Includes)
    (source : String) :
    ((∃ fault, parseActions ⟨colours, includes⟩ source = .error fault ∧
        parseActions ⟨other, includes⟩ source = .error fault) ∨
      ∃ actions others, parseActions ⟨colours, includes⟩ source = .ok actions ∧
        parseActions ⟨other, includes⟩ source = .ok others ∧
        List.Forall₂ Action.SameButColours actions others) ∧
    ((∃ fault, parsePattern ⟨colours, includes⟩ source = .error fault ∧
        parsePattern ⟨other, includes⟩ source = .error fault) ∨
      ∃ pattern another, parsePattern ⟨colours, includes⟩ source = .ok pattern ∧
        parsePattern ⟨other, includes⟩ source = .ok another ∧ pattern.size = another.size) ∧
    ((∀ raw ∈ (readBlocks includes (sourceLines 0 source)).1.flatMap Block.spellings,
        colours.resolveOrLiteral raw = other.resolveOrLiteral raw) →
      parsePattern ⟨colours, includes⟩ source = parsePattern ⟨other, includes⟩ source) := by
  refine ⟨?_, map_eq_map_iff.mp (map_size_parsePattern colours other includes source),
    parsePattern_congr⟩
  rw [parseActions_resolvedIn colours other]
  cases parseActions ⟨colours, includes⟩ source with
  | error fault => exact .inl ⟨fault, rfl, rfl⟩
  | ok actions =>
    refine .inr ⟨actions, _, rfl, rfl, ?_⟩
    rw [List.forall₂_map_right_iff, List.forall₂_same]
    exact fun action _ => action.sameButColours_resolvedIn other

theorem isLongLine_redPalette : ["a => red"] ≠ [] ∧ ∀ line ∈ ["a => red"], IsLongLine line := by
  decide

/-- A palette of one colour, and one cross in it. -/
def spelledCross : List WrittenBlock :=
  BlockKind.palette.write ["a => red"] isLongLine_redPalette :: drawnCross

/-- A table that makes no colour of red takes the cross away, but not its place. A table that
knows a colour which is not written makes no difference. -/
theorem spelledCross_resolved :
    ∃ pattern another,
      parsePattern (.alone .empty) (writtenText spelledCross) = .ok pattern ∧
      parsePattern (.alone (ColourTable.empty.insert "red" noColour)) (writtenText spelledCross) =
        .ok another ∧
      parsePattern (.alone (ColourTable.empty.insert "blue" noColour)) (writtenText spelledCross) =
        .ok pattern ∧
      pattern.entries.length = 1 ∧ another.entries.length = 0 ∧ pattern.size = another.size := by
  have hcolour : (patternOfBlocks .empty (spelledCross.map WrittenBlock.block)).map
      (fun pattern => pattern.entries.length) = .ok 1 := by decide +kernel
  have hnone : (patternOfBlocks (ColourTable.empty.insert "red" noColour)
      (spelledCross.map WrittenBlock.block)).map (fun pattern => pattern.entries.length) = .ok 0 := by
    decide +kernel
  obtain ⟨pattern, hblocks, hlength⟩ := map_eq_ok_iff.mp hcolour
  obtain ⟨another, hblocks', hlength'⟩ := map_eq_ok_iff.mp hnone
  have hpattern : parsePattern (.alone .empty) (writtenText spelledCross) = .ok pattern :=
    parsePattern_writtenText.mpr hblocks
  have hanother : parsePattern (.alone (ColourTable.empty.insert "red" noColour))
      (writtenText spelledCross) = .ok another := parsePattern_writtenText.mpr hblocks'
  have hsize : pattern.size = another.size := by
    rcases (colours_do_not_decide_validity .empty (ColourTable.empty.insert "red" noColour)
      (ChartContext.alone .empty).includes (writtenText spelledCross)).2.1 with
      ⟨_, hfault, _⟩ | ⟨_, _, hok, hok', hsame⟩
    · cases hfault.symm.trans hpattern
    · cases hok.symm.trans hpattern
      cases hok'.symm.trans hanother
      exact hsame
  have hunused : parsePattern (.alone .empty) (writtenText spelledCross) =
      parsePattern (.alone (ColourTable.empty.insert "blue" noColour)) (writtenText spelledCross) := by
    refine (colours_do_not_decide_validity _ _ _ _).2.2 ?_
    rw [readAll_eq_ok_iff.mp (readAll_writtenText _ spelledCross)]
    decide +kernel
  exact ⟨pattern, another, hpattern, hanother, hunused.symm.trans hpattern, hlength, hlength', hsize⟩

end CrossStitch
