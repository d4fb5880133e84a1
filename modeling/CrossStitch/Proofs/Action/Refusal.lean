import CrossStitch.Proofs.Action.Resolver

/-! What a refused block leaves behind. All parts of a block are looked at before anything is
changed, but for palettes, which are put together line by line. So a session is as it was before
a refused block, except that a palette block has put its assignments up to the bad line in the
place of the palette. A block that leaves no trace can as well be left out. -/

namespace CrossStitch

/-- The palette has the assignments of the lines before the first bad one, and nothing else. A
line is bad if it assigns nothing, or if its symbol has been assigned before. -/
def Palette.ReadUpToBadLine (resolver : Resolver) (lines : List String) (palette : Palette) :
    Prop :=
  ∃ good bad rest entries, lines = good ++ bad :: rest ∧
    List.Forall₂ resolver.Assigns good entries ∧ (entries.map PaletteEntry.symbol).Nodup ∧
    palette = Palette.extend ∅ entries ∧
    ∀ entry, resolver.Assigns bad entry → entry.symbol ∈ palette

/-- What a session is after it has refused a block. -/
structure Session.LeftBy (resolver : Resolver) (session : Session) (block : Block)
    (after : Session) : Prop where
  committed : after.committed = session.committed
  rows : after.current.rows = session.current.rows
  mode : after.current.mode = session.current.mode
  offset : after.current.offset = session.current.offset
  finish : after.finish = session.finish
  palette : if block.mode = BlockKind.palette.word then
      after.current.palette.ReadUpToBadLine resolver block.lines
    else after.current.palette = session.current.palette

/-- A block that a session was fed, what the session answered and what it was then. -/
structure Feeding where
  block : Block
  outcome : Except Fault Unit
  after : Session

/-- The block was refused and is no palette block. -/
def Feeding.isIdle (feeding : Feeding) : Bool :=
  match feeding.outcome with
  | .ok () => false
  | .error _ => feeding.block.mode != BlockKind.palette.word

namespace Session

/-- Feeds blocks in order, and keeps what comes of each. -/
def feedings (resolver : Resolver) (session : Session) : List Block → List Feeding
  | [] => []
  | block :: rest =>
    let (after, outcome) := session.feedBy resolver block
    ⟨block, outcome, after⟩ :: feedings resolver after rest

/-- The feedings that are not idle. -/
def lasting (resolver : Resolver) (session : Session) (blocks : List Block) : List Feeding :=
  (session.feedings resolver blocks).filter fun feeding => !feeding.isIdle

/-! ### One block -/

variable {colours : ColourTable} {session after : Session} {block : Block} {fault : Fault}

/-- A palette is given up at the first line that cannot be taken over. -/
theorem readPalette_eq_some {lines : List String} {palette next : Palette} {kind : ChartFault}
    (h : readPalette colours palette lines = (next, some kind)) :
    ∃ good bad rest, lines = good ++ bad :: rest ∧
      readPalette colours palette good = (next, none) ∧
      readAssignment colours next bad = .error kind := by
  induction lines generalizing palette with
  | nil => cases h
  | cons line lines ih =>
    rw [readPalette] at h
    split at h
    next bad =>
      cases h
      exact ⟨[], line, lines, rfl, rfl, bad⟩
    next entry hline =>
      obtain ⟨good, bad, rest, rfl, hgood, hbad⟩ := ih h
      refine ⟨line :: good, bad, rest, rfl, ?_, hbad⟩
      rw [readPalette, hline]
      exact hgood

theorem settle_eq_error {result : Except ChartFault Session}
    (h : session.settle block result = (after, .error fault)) : after = session := by
  cases result with
  | ok next => cases h
  | error kind =>
    cases h
    rfl

/-- Only a palette block changes anything when it is refused. -/
theorem feed_eq_error (h : session.feed colours block = (after, .error fault)) :
    (block.mode ≠ BlockKind.palette.word ∧ after = session) ∨
    block.mode = BlockKind.palette.word ∧ ∃ palette kind,
      readPalette colours ∅ block.lines = (palette, some kind) ∧
      after = { session with current := { session.current with palette } } := by
  rw [Ne, ← BlockKind.ofWord?_eq_some_iff]
  rw [feed] at h
  by_cases hk : BlockKind.ofWord? block.mode = some .palette
  · rw [hk] at h
    cases hread : readPalette colours ∅ block.lines with
    | mk palette fault? =>
      rw [hread] at h
      cases fault? with
      | none => cases h
      | some kind =>
        cases h
        exact .inr ⟨hk, palette, kind, rfl, rfl⟩
  · refine .inl ⟨hk, ?_⟩
    split at h
    next => exact settle_eq_error h
    next hpalette => exact absurd hpalette hk
    all_goals exact settle_eq_error h

variable {resolver : Resolver}

theorem readUpToBadLine (hk : block.mode = BlockKind.palette.word) {palette : Palette}
    {kind : ChartFault} (h : readPalette (resolver.tabulate block.spellings) ∅ block.lines =
      (palette, some kind)) : palette.ReadUpToBadLine resolver block.lines := by
  obtain ⟨good, bad, rest, hlines, hgood, hbad⟩ := readPalette_eq_some h
  obtain ⟨entries, hentries, hdistinct, _, hpalette⟩ := readPalette_eq_none_iff.mp hgood
  have hnames (line : String) (hl : line ∈ good ++ bad :: rest) (raw : String)
      (hs : spelling? line = some raw) : raw ∈ block.spellings :=
    block.mem_spellings hk (hlines ▸ hl) hs
  refine ⟨good, bad, rest, entries, hlines, ?_, hdistinct, hpalette, fun entry hentry => ?_⟩
  · exact Resolver.forall₂_assigns (fun line hl => hnames line (by simp [hl])) hentries
  · by_contra hfree
    have hline := (Resolver.isAssignment_tabulate_iff (hnames bad (by simp))).mpr hentry
    cases hbad.symm.trans (readAssignment_eq_ok_iff.mpr ⟨hline, hfree⟩)

theorem leftBy_of_feedBy (h : session.feedBy resolver block = (after, .error fault)) :
    session.LeftBy resolver block after := by
  rcases feed_eq_error h with ⟨hk, rfl⟩ | ⟨hk, palette, kind, hread, rfl⟩
  · exact ⟨rfl, rfl, rfl, rfl, rfl, by rw [if_neg hk]⟩
  · exact ⟨rfl, rfl, rfl, rfl, rfl, by rw [if_pos hk]; exact readUpToBadLine hk hread⟩

/-! ### Many blocks -/

section Feedings

variable {outcome : Except Fault Unit} {rest : List Block}

/-- An idle block leaves the session as it was. -/
theorem after_of_isIdle (hf : session.feedBy resolver block = (after, outcome))
    (h : Feeding.isIdle ⟨block, outcome, after⟩) : after = session := by
  cases outcome with
  | ok _ => cases h
  | error fault =>
    rcases feed_eq_error hf with ⟨_, hsame⟩ | ⟨hk, _⟩
    · exact hsame
    · rw [Feeding.isIdle, hk] at h
      cases h

theorem feedings_cons (hf : session.feedBy resolver block = (after, outcome)) :
    session.feedings resolver (block :: rest) =
      ⟨block, outcome, after⟩ :: after.feedings resolver rest := by
  rw [feedings, hf]

theorem feedEach_cons (hf : session.feedBy resolver block = (after, outcome)) :
    session.feedEach resolver (block :: rest) = after.feedEach resolver rest := by
  rw [feedEach, List.foldl_cons, hf, feedEach]

theorem lasting_cons (hf : session.feedBy resolver block = (after, outcome)) :
    session.lasting resolver (block :: rest) =
      if Feeding.isIdle ⟨block, outcome, after⟩ then after.lasting resolver rest
      else ⟨block, outcome, after⟩ :: after.lasting resolver rest := by
  rw [lasting, feedings_cons hf, List.filter_cons]
  cases Feeding.isIdle ⟨block, outcome, after⟩ <;> rfl

end Feedings

/-- Without the idle blocks the others come to the same, one by one and in the end. -/
theorem feedings_lasting (session : Session) (blocks : List Block) :
    session.feedings resolver ((session.lasting resolver blocks).map Feeding.block) =
        session.lasting resolver blocks ∧
      session.feedEach resolver ((session.lasting resolver blocks).map Feeding.block) =
        session.feedEach resolver blocks := by
  induction blocks generalizing session with
  | nil => exact ⟨rfl, rfl⟩
  | cons block rest ih =>
    cases hf : session.feedBy resolver block with
    | mk after outcome =>
      obtain ⟨hfeedings, hend⟩ := ih after
      rw [lasting_cons hf, feedEach_cons hf]
      split
      next hidle =>
        rw [after_of_isIdle hf hidle] at hfeedings hend ⊢
        exact ⟨hfeedings, hend⟩
      next =>
        rw [List.map_cons, feedings_cons hf, feedEach_cons hf, hfeedings, hend]
        exact ⟨rfl, rfl⟩

end Session

/-- A refused block changes nothing but the palette, and that only if it is a palette block: the
assignments before its bad line are then all that there is. So if from any blocks the refused
ones are left out that are no palette blocks, every other block gets the same answer and leaves
the session the same, and the same actions are committed in the end. -/
theorem refused_block_changes_palette_only (resolver : Resolver) (session : Session) :
    (∀ block after fault, session.feedBy resolver block = (after, .error fault) →
      session.LeftBy resolver block after) ∧
    ∀ blocks,
      session.feedings resolver ((session.lasting resolver blocks).map Feeding.block) =
        session.lasting resolver blocks ∧
      session.feedEach resolver ((session.lasting resolver blocks).map Feeding.block) =
        session.feedEach resolver blocks :=
  ⟨fun _ _ _ => Session.leftBy_of_feedBy, Session.feedings_lasting session⟩

/-- A drawing that has a palette, but no mode. -/
def halfDrawn : Session :=
  ⟨⟨Std.ExtTreeMap.empty.insert 'a' ⟨'a', "red", "red"⟩, none, ["a"], ⟨0, 0⟩⟩, []⟩

/-- A palette block with a line that assigns nothing. -/
def tornPalette : Block :=
  ⟨"palette", ["b => blue", "a", "c => red"]⟩

/-- The drawing is left, but of the palette nothing but the first line of the block. A mode that
does not exist could as well not have been tried. -/
theorem tornPalette_refused :
    (∃ after fault, halfDrawn.feedBy (fun _ => none) tornPalette = (after, .error fault) ∧
      after.current.rows = ["a"] ∧ after.finish = .error (.bare .uncommittedPattern) ∧
      after.current.palette.toList = [('b', ⟨'b', "blue", "blue"⟩)] ∧
      after.current.palette.ReadUpToBadLine (fun _ => none) tornPalette.lines) ∧
    halfDrawn.feedEach (fun _ => none) [⟨"mode", ["knit"]⟩, tornPalette] =
      halfDrawn.feedEach (fun _ => none) [tornPalette] := by
  obtain ⟨hrefused, hidle⟩ := refused_block_changes_palette_only (fun _ => none) halfDrawn
  constructor
  · have hfault : (halfDrawn.feedBy (fun _ => none) tornPalette).2 =
        .error (.chart .invalidPaletteAssignment tornPalette.lines) := by decide +kernel
    have hleft := hrefused tornPalette _ _ (Prod.ext rfl hfault)
    have hpalette := hleft.palette
    rw [if_pos (by decide)] at hpalette
    exact ⟨_, _, Prod.ext rfl hfault, hleft.rows, hleft.finish, by decide +kernel, hpalette⟩
  · have hkept : (halfDrawn.lasting (fun _ => none) [⟨"mode", ["knit"]⟩, tornPalette]).map
        Feeding.block = [tornPalette] := by decide +kernel
    have hend := (hidle [⟨"mode", ["knit"]⟩, tornPalette]).2
    rw [hkept] at hend
    exact hend.symm

end CrossStitch
