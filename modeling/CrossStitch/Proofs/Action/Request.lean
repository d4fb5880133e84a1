import CrossStitch.Action.Session
import CrossStitch.Proofs.Outcome
import CrossStitch.Proofs.Text.Cut
import CrossStitch.Proofs.Text.Signed
import Mathlib.Data.List.Forall2
import Mathlib.Data.List.Infix

/-! What blocks ask for. Whether a block can be understood is decided by the block
alone, apart from what the session has come to: a block asks for something or for
nothing. Whether what it asks for can be granted is decided by the session. A block
is accepted exactly when it asks for something that can be granted. -/

namespace CrossStitch

/-- What a block asks of the action in preparation. -/
inductive Request
  | palette (palette : Palette)
  | pattern (rows : List String)
  | mode (mode : StitchMode)
  | offset (offset : Offset)
  | commit

/-- The word for the kind in chart source. -/
def BlockKind.word : BlockKind → String
  | .palette => "palette"
  | .pattern => "pattern"
  | .mode => "mode"
  | .offset => "offset"
  | .action => "action"

theorem BlockKind.ofWord?_eq_some_iff {word : String} {kind : BlockKind} :
    BlockKind.ofWord? word = some kind ↔ word = kind.word := by
  constructor
  · intro h
    unfold ofWord? at h
    split at h <;> cases h <;> rfl
  · rintro rfl
    cases kind <;> rfl

/-- A palette line that gives an entry: its symbol, the mark, and a colour without
another mark. -/
structure IsAssignment (colours : ColourTable) (line : String) (entry : PaletteEntry) : Prop where
  parts : ∃ colour, line.toList = entry.symbol :: (assignmentMark ++ colour) ∧
    ¬ assignmentMark <:+: colour ∧ entry.raw = String.ofList (Text.trim colour)
  resolved : entry.resolved = colours.resolveOrLiteral entry.raw

/-- An offset line: two integers with blanks around them allowed and one mark between. -/
def IsOffset (line : String) (offset : Offset) : Prop :=
  ∃ left right, line.toList = left ++ 'x' :: right ∧ 'x' ∉ left ∧ 'x' ∉ right ∧
    Text.Spells (Text.trim left) offset.x.toInt ∧ Text.Spells (Text.trim right) offset.y.toInt

/-- The palette with the given entries put into it. -/
def Palette.extend (palette : Palette) (entries : List PaletteEntry) : Palette :=
  entries.foldl (fun palette entry => palette.insert entry.symbol entry) palette

def Request.kind : Request → BlockKind
  | .palette _ => .palette
  | .pattern _ => .pattern
  | .mode _ => .mode
  | .offset _ => .offset
  | .commit => .action

/-- The lines that make a request: a palette is made by assignments of different
symbols, a drawing by any lines, and every other request by a line of its own. -/
def Request.WrittenAs (colours : ColourTable) (lines : List String) : Request → Prop
  | .palette p =>
    ∃ entries, List.Forall₂ (IsAssignment colours) lines entries ∧
      (entries.map PaletteEntry.symbol).Nodup ∧ p = Palette.extend ∅ entries
  | .pattern rows => lines = rows
  | .mode m => lines = [m.token]
  | .offset o => ∃ line, lines = [line] ∧ IsOffset line o
  | .commit => lines = [commitWord]

/-- What a block means on its own. -/
def Block.Asks (colours : ColourTable) (block : Block) (request : Request) : Prop :=
  block.mode = request.kind.word ∧ request.WrittenAs colours block.lines

/-- Grants a request. There can be only one drawing and one mode until the next
commit, and a commit needs both. -/
def Session.grant (session : Session) : Request → Option Session
  | .palette palette => some { session with current := { session.current with palette } }
  | .pattern rows =>
    if session.current.hasPattern then none
    else some { session with current := { session.current with rows } }
  | .mode mode =>
    if session.current.mode.any (· != mode) then none
    else some { session with current := { session.current with mode := some mode } }
  | .offset offset => some { session with current := { session.current with offset } }
  | .commit =>
    if session.current.hasPattern && session.current.mode.isSome then
      some {
        current := { session.current with rows := [], mode := none }
        committed := session.committed ++ [session.current] }
    else none

/-! ### Palettes -/

/-- Whatever stands on the right of a relation of lists has something on the left. -/
theorem exists_left_of_forall₂ {α β : Type} {R : α → β → Prop} {l : List α} {l' : List β}
    (h : List.Forall₂ R l l') {b : β} (hb : b ∈ l') : ∃ a ∈ l, R a b := by
  induction h with
  | nil => cases hb
  | cons hfirst _ ih =>
    rcases List.mem_cons.mp hb with rfl | hb
    · exact ⟨_, List.mem_cons_self, hfirst⟩
    · obtain ⟨a, ha, hr⟩ := ih hb
      exact ⟨a, List.mem_cons_of_mem _ ha, hr⟩

theorem assignmentMark_not_infix (symbol : Char) :
    ¬ assignmentMark <:+: [symbol] ++ assignmentMark.dropLast := by
  intro h
  -- both have four characters, but the second is `=` here and a blank there
  cases h.eq_of_length rfl

theorem pair?_assignmentMark_iff {line colour : List Char} {symbol : Char} :
    Text.pair? assignmentMark line = some ([symbol], colour) ↔
      line = symbol :: (assignmentMark ++ colour) ∧ ¬ assignmentMark <:+: colour := by
  rw [Text.pair?_eq_some_iff (by decide)]
  constructor
  · rintro ⟨h, _, hc⟩
    exact ⟨by simpa using h, hc⟩
  · rintro ⟨h, hc⟩
    exact ⟨by simpa using h, assignmentMark_not_infix symbol, hc⟩

theorem readAssignment_eq_ok_iff {colours : ColourTable} {palette : Palette} {line : String}
    {entry : PaletteEntry} :
    Session.readAssignment colours palette line = .ok entry ↔
      IsAssignment colours line entry ∧ entry.symbol ∉ palette := by
  unfold Session.readAssignment
  split
  next hp =>
    refine ⟨nofun, ?_⟩
    rintro ⟨⟨⟨colour, hline⟩, _⟩, _⟩
    rw [pair?_assignmentMark_iff.mpr ⟨hline.1, hline.2.1⟩] at hp
    cases hp
  next symbol colour hp =>
    obtain ⟨hline, hmark⟩ := pair?_assignmentMark_iff.mp hp
    split
    next hused =>
      refine ⟨nofun, ?_⟩
      rintro ⟨⟨⟨colour', hline', _⟩, _⟩, hfree⟩
      have hs := (List.cons_eq_cons.mp (hline.symm.trans hline')).1
      exact absurd (Std.ExtTreeMap.mem_iff_contains.mpr (hs ▸ hused)) hfree
    next hfree =>
      constructor
      · rintro ⟨⟩
        exact ⟨⟨⟨colour, hline, hmark, rfl⟩, rfl⟩, Std.ExtTreeMap.mem_iff_contains.not.mpr hfree⟩
      · rintro ⟨⟨⟨colour', hline', _, hraw⟩, hresolved⟩, _⟩
        obtain ⟨hs, hc⟩ := List.cons_eq_cons.mp (hline.symm.trans hline')
        cases List.append_cancel_left hc
        cases entry
        simp_all
  next hsingle hp =>
    refine ⟨nofun, ?_⟩
    rintro ⟨⟨⟨colour, hline⟩, _⟩, _⟩
    rw [pair?_assignmentMark_iff.mpr ⟨hline.1, hline.2.1⟩] at hp
    cases hp
    exact absurd rfl (hsingle _ _)

/-- A palette block is taken over if every line is an assignment and no symbol is
assigned twice or has been assigned before. -/
theorem readPalette_eq_none_iff {colours : ColourTable} {lines : List String}
    {palette next : Palette} :
    Session.readPalette colours palette lines = (next, none) ↔
      ∃ entries, List.Forall₂ (IsAssignment colours) lines entries ∧
        (entries.map PaletteEntry.symbol).Nodup ∧ (∀ entry ∈ entries, entry.symbol ∉ palette) ∧
        next = palette.extend entries := by
  induction lines generalizing palette with
  | nil =>
    simp [Session.readPalette, Palette.extend, eq_comm]
  | cons line lines ih =>
    rw [Session.readPalette]
    split
    next kind he =>
      refine ⟨nofun, ?_⟩
      rintro ⟨_, _ | ⟨hline, _⟩, _, hfree, _⟩
      rw [readAssignment_eq_ok_iff.mpr ⟨hline, hfree _ List.mem_cons_self⟩] at he
      cases he
    next entry he =>
      obtain ⟨hline, hfree⟩ := readAssignment_eq_ok_iff.mp he
      rw [ih]
      constructor
      · rintro ⟨entries, hlines, hdistinct, hnew, rfl⟩
        refine ⟨entry :: entries, .cons hline hlines, ?_, ?_, rfl⟩
        · rw [List.map_cons, List.nodup_cons]
          refine ⟨fun hm => ?_, hdistinct⟩
          obtain ⟨e, he, hs⟩ := List.mem_map.mp hm
          exact hnew e he (by simp [hs])
        · rintro e (_ | ⟨_, he⟩)
          · exact hfree
          · exact fun hm => hnew e he (Std.ExtTreeMap.mem_insert.mpr (.inr hm))
      · rintro ⟨_, _ | ⟨hline', hlines⟩, hdistinct, hnew, rfl⟩
        have he' := readAssignment_eq_ok_iff.mpr ⟨hline', hnew _ List.mem_cons_self⟩
        cases he.symm.trans he'
        rw [List.map_cons, List.nodup_cons] at hdistinct
        refine ⟨_, hlines, hdistinct.2, fun e hm => ?_, rfl⟩
        rw [Std.ExtTreeMap.mem_insert, Std.compare_eq_iff_eq]
        rintro (hs | hm')
        · exact hdistinct.1 (hs ▸ List.mem_map_of_mem hm)
        · exact hnew e (List.mem_cons_of_mem _ hm) hm'

/-! ### The other kinds of blocks -/

theorem ofToken?_eq_some_iff {word : String} {mode : StitchMode} :
    StitchMode.ofToken? word = some mode ↔ word = mode.token := by
  constructor
  · intro h
    simpa [eq_comm] using List.find?_some h
  · rintro rfl
    exact StitchMode.ofToken?_token mode

theorem takePattern_eq_ok_iff {action next : Action} {rows : List String} :
    Session.takePattern action rows = .ok next ↔
      action.hasPattern = false ∧ next = { action with rows } := by
  unfold Session.takePattern
  cases action.hasPattern <;> simp [eq_comm]

theorem takeMode_eq_ok_iff {action next : Action} {lines : List String} :
    Session.takeMode action lines = .ok next ↔
      ∃ mode : StitchMode, lines = [mode.token] ∧ action.mode.any (· != mode) = false ∧
        next = { action with mode := some mode } := by
  unfold Session.takeMode
  split
  next word =>
    split
    next hnone =>
      refine ⟨nofun, ?_⟩
      rintro ⟨mode, h, _⟩
      cases h
      simp [StitchMode.ofToken?_token] at hnone
    next mode hmode =>
      cases ofToken?_eq_some_iff.mp hmode
      constructor
      · intro h
        split at h
        · cases h
        next hany =>
          cases h
          exact ⟨mode, rfl, by simpa using hany, rfl⟩
      · rintro ⟨mode', h, hany, rfl⟩
        have ht : StitchMode.ofToken? mode'.token = some mode := by
          rw [← (List.cons_eq_cons.mp h).1]
          exact hmode
        cases (StitchMode.ofToken?_token mode').symm.trans ht
        rw [hany]
        rfl
  next hsingle =>
    refine ⟨nofun, ?_⟩
    rintro ⟨mode, rfl, _⟩
    exact absurd rfl (hsingle _)

theorem pair?_offsetMark_iff {line left right : List Char} :
    Text.pair? offsetMark line = some (left, right) ↔
      line = left ++ 'x' :: right ∧ 'x' ∉ left ∧ 'x' ∉ right := by
  rw [Text.pair?_eq_some_iff (by decide)]
  simp [offsetMark, List.singleton_infix_iff]

theorem readNumber_eq_ok_iff {text : List Char} {value : Int32} :
    Session.readNumber text = .ok value ↔ Text.Spells (Text.trim text) value.toInt := by
  rw [← Text.readInt32_eq_ok_iff, Session.readNumber]
  split <;> simp_all

theorem takeOffset_eq_ok_iff {action next : Action} {lines : List String} :
    Session.takeOffset action lines = .ok next ↔
      ∃ line offset, lines = [line] ∧ IsOffset line offset ∧ next = { action with offset } := by
  unfold Session.takeOffset
  split
  next line =>
    split
    next hnone =>
      refine ⟨nofun, ?_⟩
      rintro ⟨line', offset, h, ⟨left, right, hline, hl, hr, _⟩, _⟩
      cases h
      rw [pair?_offsetMark_iff.mpr ⟨hline, hl, hr⟩] at hnone
      cases hnone
    next left right hpair =>
      obtain ⟨hline, hl, hr⟩ := pair?_offsetMark_iff.mp hpair
      constructor
      · intro h
        obtain ⟨x, hx, h⟩ := bind_eq_ok_iff.mp h
        obtain ⟨y, hy, h⟩ := bind_eq_ok_iff.mp h
        cases h
        exact ⟨line, ⟨x, y⟩, rfl, ⟨left, right, hline, hl, hr, readNumber_eq_ok_iff.mp hx,
          readNumber_eq_ok_iff.mp hy⟩, rfl⟩
      · rintro ⟨line', offset, h, ⟨left', right', hline', hl', hr', hx, hy⟩, rfl⟩
        cases h
        cases hpair.symm.trans (pair?_offsetMark_iff.mpr ⟨hline', hl', hr'⟩)
        rw [readNumber_eq_ok_iff.mpr hx, readNumber_eq_ok_iff.mpr hy]
        rfl
  next hsingle =>
    refine ⟨nofun, ?_⟩
    rintro ⟨line, offset, rfl, _⟩
    exact absurd rfl (hsingle _)

theorem commit_eq_ok_iff {session next : Session} {block : Block} :
    session.commit block = .ok next ↔
      block.lines = [commitWord] ∧ session.grant .commit = some next := by
  unfold Session.commit Session.grant Block.isSingle
  by_cases hl : block.lines = [commitWord]
  · cases hp : session.current.hasPattern
    · simp [hl]
    · cases hm : session.current.mode <;> simp [hl]
  · simp [hl]

/-! ### Accepting a block -/

theorem settleCurrent_eq_ok_iff {session next : Session} {block : Block}
    {result : Except ChartFault Action} :
    session.settleCurrent block result = (next, .ok ()) ↔
      ∃ action, result = .ok action ∧ next = { session with current := action } := by
  cases result with
  | error kind => exact ⟨nofun, nofun⟩
  | ok action =>
    constructor
    · rintro ⟨⟩
      exact ⟨action, rfl, rfl⟩
    · rintro ⟨_, ⟨⟩, rfl⟩
      rfl

theorem settle_eq_ok_iff {session next : Session} {block : Block}
    {result : Except ChartFault Session} :
    session.settle block result = (next, .ok ()) ↔ result = .ok next := by
  cases result with
  | error kind => exact ⟨nofun, nofun⟩
  | ok other => simp [Session.settle]

section Feed

variable {colours : ColourTable} {session next : Session} {lines : List String}

theorem feed_palette_iff :
    session.feed colours ⟨BlockKind.word .palette, lines⟩ = (next, .ok ()) ↔
      ∃ palette, (Request.palette palette).WrittenAs colours lines ∧
        session.grant (.palette palette) = some next := by
  have hr : ∀ palette, Session.readPalette colours ∅ lines = (palette, none) ↔
      (Request.palette palette).WrittenAs colours lines := by
    intro palette
    rw [readPalette_eq_none_iff, Request.WrittenAs]
    simp
  simp only [← hr, Session.feed, BlockKind.word, BlockKind.ofWord?, Session.grant]
  cases Session.readPalette colours ∅ lines with
  | mk palette fault? => cases fault? <;> simp

theorem feed_pattern_iff :
    session.feed colours ⟨BlockKind.word .pattern, lines⟩ = (next, .ok ()) ↔
      session.grant (.pattern lines) = some next := by
  simp only [Session.feed, BlockKind.word, BlockKind.ofWord?, Session.grant,
    settleCurrent_eq_ok_iff, takePattern_eq_ok_iff]
  cases session.current.hasPattern <;> simp [eq_comm]

theorem feed_mode_iff :
    session.feed colours ⟨BlockKind.word .mode, lines⟩ = (next, .ok ()) ↔
      ∃ mode : StitchMode, lines = [mode.token] ∧ session.grant (.mode mode) = some next := by
  simp only [Session.feed, BlockKind.word, BlockKind.ofWord?, Session.grant,
    settleCurrent_eq_ok_iff, takeMode_eq_ok_iff]
  constructor
  · rintro ⟨_, ⟨mode, rfl, hany, rfl⟩, rfl⟩
    exact ⟨mode, rfl, by simp [hany]⟩
  · rintro ⟨mode, rfl, h⟩
    split at h
    · cases h
    next hany =>
      cases h
      exact ⟨_, ⟨mode, rfl, by simpa using hany, rfl⟩, rfl⟩

theorem feed_offset_iff :
    session.feed colours ⟨BlockKind.word .offset, lines⟩ = (next, .ok ()) ↔
      ∃ offset, (Request.offset offset).WrittenAs colours lines ∧
        session.grant (.offset offset) = some next := by
  simp only [Session.feed, BlockKind.word, BlockKind.ofWord?, Session.grant,
    settleCurrent_eq_ok_iff, takeOffset_eq_ok_iff, Request.WrittenAs]
  constructor
  · rintro ⟨_, ⟨line, offset, rfl, h, rfl⟩, rfl⟩
    exact ⟨offset, ⟨line, rfl, h⟩, rfl⟩
  · rintro ⟨offset, ⟨line, rfl, h⟩, ⟨⟩⟩
    exact ⟨_, ⟨line, offset, rfl, h, rfl⟩, rfl⟩

theorem feed_action_iff :
    session.feed colours ⟨BlockKind.word .action, lines⟩ = (next, .ok ()) ↔
      lines = [commitWord] ∧ session.grant .commit = some next := by
  simp only [Session.feed, BlockKind.word, BlockKind.ofWord?, settle_eq_ok_iff, commit_eq_ok_iff]

/-- A block is accepted when what it asks for can be granted. -/
theorem feed_eq_ok_iff {block : Block} :
    session.feed colours block = (next, .ok ()) ↔
      ∃ request, block.Asks colours request ∧ session.grant request = some next := by
  obtain ⟨word, lines⟩ := block
  cases hk : BlockKind.ofWord? word with
  | none =>
    simp only [Session.feed, hk, settle_eq_ok_iff, reduceCtorEq, false_iff]
    rintro ⟨request, ⟨hmode, _⟩, _⟩
    rw [BlockKind.ofWord?_eq_some_iff.mpr hmode] at hk
    cases hk
  | some kind =>
    cases BlockKind.ofWord?_eq_some_iff.mp hk
    have hkind : ∀ request : Request, kind.word = request.kind.word → kind = request.kind := by
      intro request h
      rw [BlockKind.ofWord?_eq_some_iff.mpr h] at hk
      exact (Option.some.inj hk).symm
    constructor
    · intro h
      cases kind with
      | palette =>
        obtain ⟨palette, hlines, hgrant⟩ := feed_palette_iff.mp h
        exact ⟨.palette palette, ⟨rfl, hlines⟩, hgrant⟩
      | pattern => exact ⟨.pattern lines, ⟨rfl, rfl⟩, feed_pattern_iff.mp h⟩
      | mode =>
        obtain ⟨mode, hlines, hgrant⟩ := feed_mode_iff.mp h
        exact ⟨.mode mode, ⟨rfl, hlines⟩, hgrant⟩
      | offset =>
        obtain ⟨offset, hlines, hgrant⟩ := feed_offset_iff.mp h
        exact ⟨.offset offset, ⟨rfl, hlines⟩, hgrant⟩
      | action =>
        obtain ⟨hlines, hgrant⟩ := feed_action_iff.mp h
        exact ⟨.commit, ⟨rfl, hlines⟩, hgrant⟩
    · rintro ⟨request, ⟨hmode, hlines⟩, hgrant⟩
      cases hkind request hmode
      cases request with
      | palette palette => exact feed_palette_iff.mpr ⟨palette, hlines, hgrant⟩
      | pattern rows =>
        have hrows : lines = rows := hlines
        subst hrows
        exact feed_pattern_iff.mpr hgrant
      | mode mode => exact feed_mode_iff.mpr ⟨mode, hlines, hgrant⟩
      | offset offset => exact feed_offset_iff.mpr ⟨offset, hlines, hgrant⟩
      | commit => exact feed_action_iff.mpr ⟨hlines, hgrant⟩

end Feed

theorem feedAll_cons_eq_ok_iff {colours : ColourTable} {session next : Session} {block : Block}
    {blocks : List Block} :
    session.feedAll colours (block :: blocks) = .ok next ↔
      ∃ request after, block.Asks colours request ∧ session.grant request = some after ∧
        after.feedAll colours blocks = .ok next := by
  rw [Session.feedAll]
  constructor
  · intro h
    split at h
    · cases h
    next after hfeed =>
      obtain ⟨request, hasks, hgrant⟩ := feed_eq_ok_iff.mp hfeed
      exact ⟨request, after, hasks, hgrant, h⟩
  · rintro ⟨request, after, hasks, hgrant, h⟩
    rw [feed_eq_ok_iff.mpr ⟨request, hasks, hgrant⟩]
    exact h

/-- A list of blocks is accepted when the requests of the blocks can be granted in order. -/
theorem feedAll_eq_ok_iff {colours : ColourTable} {session next : Session}
    {blocks : List Block} :
    session.feedAll colours blocks = .ok next ↔
      ∃ requests, List.Forall₂ (Block.Asks colours) blocks requests ∧
        requests.foldlM Session.grant session = some next := by
  induction blocks generalizing session with
  | nil => simp [Session.feedAll, pure]
  | cons block blocks ih =>
    simp only [feedAll_cons_eq_ok_iff, ih]
    constructor
    · rintro ⟨request, after, hasks, hgrant, requests, hrest, hgrants⟩
      exact ⟨request :: requests, .cons hasks hrest,
        Option.bind_eq_some_iff.mpr ⟨after, hgrant, hgrants⟩⟩
    · rintro ⟨_, _ | ⟨hasks, hrest⟩, hgrants⟩
      obtain ⟨after, hgrant, hgrants⟩ := Option.bind_eq_some_iff.mp hgrants
      exact ⟨_, after, hasks, hgrant, _, hrest, hgrants⟩

end CrossStitch
