import CrossStitch.Parser
import CrossStitch.Proofs.Action.Request
import CrossStitch.Proofs.Block.Writing

/-! Actions and the source they are written in. An action is written as five blocks,
of which the last commits it, and each block replaces or fills what the action before
left in the session. So a list of actions is read back whatever comes before each. -/

namespace CrossStitch

/-- The palette line that gives a symbol a colour. -/
def assignmentLine (symbol : Char) (entry : PaletteEntry) : String :=
  String.ofList (symbol :: (assignmentMark ++ entry.raw.toList))

/-- The offset line for two numbers in decimal. -/
def Offset.line (offset : Offset) : String :=
  toString offset.x.toInt ++ String.ofList offsetMark ++ toString offset.y.toInt

/-- An entry that can be written on a palette line and stands for a colour of the table. -/
structure PaletteEntry.Writable (colours : ColourTable) (entry : PaletteEntry) : Prop where
  not_blank : Text.isBlank entry.symbol = false
  not_comment : entry.symbol ≠ '#'
  raw : IsBodyLine entry.raw.toList
  no_mark : ¬ assignmentMark <:+: entry.raw.toList
  resolved : entry.resolved = colours.resolveOrLiteral entry.raw

/-- Every entry stands under its own symbol. -/
def Palette.Keyed (palette : Palette) : Prop :=
  ∀ (symbol : Char) (entry : PaletteEntry), palette[symbol]? = some entry → entry.symbol = symbol

/-- A body line that cannot be taken for a comment or for the end of a block. -/
structure IsLongLine (line : String) : Prop where
  body : IsBodyLine line.toList
  not_comment : line.toList.head? ≠ some '#'
  not_closing : line ≠ closingLine

instance (line : String) : Decidable (IsLongLine line) :=
  decidable_of_iff (IsBodyLine line.toList ∧ line.toList.head? ≠ some '#' ∧ line ≠ closingLine)
    ⟨fun ⟨hb, hc, he⟩ => ⟨hb, hc, he⟩, fun ⟨hb, hc, he⟩ => ⟨hb, hc, he⟩⟩

/-- An action that can be written. -/
structure Action.WellFormed (colours : ColourTable) (action : Action) : Prop where
  palette : action.palette ≠ ∅
  keyed : action.palette.Keyed
  entry : ∀ (symbol : Char) (entry : PaletteEntry),
    action.palette[symbol]? = some entry → entry.Writable colours
  mode : action.mode.isSome = true
  rows : action.rows ≠ []
  row : ∀ row ∈ action.rows, IsLongLine row

/-- The blocks an action is written in. The entries of the palette may stand in any order. -/
def Action.WrittenAs (action : Action) (blocks : List Block) : Prop :=
  ∃ (mode : StitchMode) (entries : List (Char × PaletteEntry)),
    action.mode = some mode ∧ entries.Perm action.palette.toList ∧
    blocks =
      [⟨"palette", entries.map fun (symbol, entry) => assignmentLine symbol entry⟩,
        ⟨"offset", [action.offset.line]⟩,
        ⟨"mode", [mode.token]⟩,
        ⟨"pattern", action.rows⟩,
        ⟨"action", [commitWord]⟩]

/-- The blocks a list of actions is written in. -/
def ActionsWrittenAs (actions : List Action) (blocks : List Block) : Prop :=
  ∃ parts, List.Forall₂ Action.WrittenAs actions parts ∧ blocks = parts.flatten

/-! ### Palettes -/

/-- A palette made of entries with different symbols has just these entries. -/
theorem Palette.getElem?_extend_eq_some_iff {entries : List PaletteEntry}
    (hd : (entries.map PaletteEntry.symbol).Nodup) {symbol : Char} {entry : PaletteEntry} :
    (Palette.extend ∅ entries)[symbol]? = some entry ↔
      entry ∈ entries ∧ entry.symbol = symbol := by
  induction entries using List.reverseRecOn with
  | nil => simp [Palette.extend]
  | append_singleton entries last ih =>
    have hsnoc : Palette.extend ∅ (entries ++ [last]) =
        (Palette.extend ∅ entries).insert last.symbol last := by
      simp [Palette.extend, List.foldl_append]
    rw [List.map_append, List.nodup_append] at hd
    obtain ⟨hinit, _, hlast⟩ := hd
    rw [hsnoc, Std.ExtTreeMap.getElem?_insert]
    by_cases hs : last.symbol = symbol
    · subst hs
      simp only [Std.ReflCmp.compare_self, ↓reduceIte, Option.some.injEq, List.mem_append,
        List.mem_singleton]
      constructor
      · rintro rfl
        exact ⟨.inr rfl, rfl⟩
      · rintro ⟨he | rfl, hsame⟩
        · exact absurd hsame (hlast _ (List.mem_map_of_mem he) _ (by simp))
        · rfl
    · have hne : compare last.symbol symbol ≠ .eq := by
        rwa [ne_eq, Std.compare_eq_iff_eq]
      rw [if_neg hne, ih hinit, List.mem_append, List.mem_singleton]
      constructor
      · rintro ⟨he, hsame⟩
        exact ⟨.inl he, hsame⟩
      · rintro ⟨he | rfl, hsame⟩
        · exact ⟨he, hsame⟩
        · exact absurd hsame hs

section Entries

variable {palette : Palette} {entries : List (Char × PaletteEntry)}

theorem nodup_symbols_of_perm (hp : entries.Perm palette.toList) (hs : palette.Keyed) :
    (entries.map fun e => e.2.symbol).Nodup := by
  have hkeys : entries.map (fun e => e.2.symbol) = entries.map Prod.fst := by
    apply List.map_congr_left
    intro e he
    exact hs e.1 e.2 (Std.ExtTreeMap.mem_toList_iff_getElem?_eq_some.mp (hp.mem_iff.mp he))
  rw [hkeys, (hp.map Prod.fst).nodup_iff, Std.ExtTreeMap.map_fst_toList_eq_keys]
  exact Std.ExtTreeMap.nodup_keys

/-- A palette is made again from its entries in any order. -/
theorem Palette.extend_of_perm (hp : entries.Perm palette.toList) (hs : palette.Keyed) :
    Palette.extend ∅ (entries.map Prod.snd) = palette := by
  have hd : ((entries.map Prod.snd).map PaletteEntry.symbol).Nodup := by
    rw [List.map_map]
    exact nodup_symbols_of_perm hp hs
  apply Std.ExtTreeMap.ext_getElem?
  intro symbol
  apply Option.ext
  intro entry
  rw [Palette.getElem?_extend_eq_some_iff hd]
  constructor
  · rintro ⟨he, rfl⟩
    obtain ⟨⟨symbol, entry⟩, hm, rfl⟩ := List.mem_map.mp he
    have hget := Std.ExtTreeMap.mem_toList_iff_getElem?_eq_some.mp (hp.mem_iff.mp hm)
    rwa [hs symbol entry hget]
  · intro hget
    have hm := hp.mem_iff.mpr (Std.ExtTreeMap.mem_toList_iff_getElem?_eq_some.mpr hget)
    exact ⟨List.mem_map.mpr ⟨_, hm, rfl⟩, hs symbol entry hget⟩

end Entries

/-! ### Lines -/

theorem isMode_word (kind : BlockKind) : IsMode kind.word.toList := by
  have hstart : ∀ c ∈ kind.word.toList.head?, Text.isBlank c = false ∧ c ≠ '#' := by
    intro c hc
    cases kind <;> cases hc <;> decide
  refine ⟨?_, ?_, ?_, hstart⟩ <;> cases kind <;> decide

theorem word_ne_include (kind : BlockKind) : kind.word ≠ includeMode := by
  cases kind <;> decide

theorem printable_of_lines {kind : BlockKind} {lines : List String} (hne : lines ≠ [])
    (hl : ∀ line ∈ lines, IsLongLine line) : Block.Printable ⟨kind.word, lines⟩ where
  mode := isMode_word kind
  lines line hm := (hl line hm).body
  ne_include := word_ne_include kind
  form := ⟨.long, hne, fun line hm => ⟨(hl line hm).not_comment, (hl line hm).not_closing⟩⟩

theorem ne_closingLine_of_length {line : String} (h : line.toList.length ≠ 1) :
    line ≠ closingLine := by
  rintro rfl
  exact h (by simp)

theorem isLongLine_assignmentLine {colours : ColourTable} {entry : PaletteEntry}
    (h : entry.Writable colours) : IsLongLine (assignmentLine entry.symbol entry) := by
  have ht : (assignmentLine entry.symbol entry).toList =
      entry.symbol :: (assignmentMark ++ entry.raw.toList) := String.toList_ofList
  have hnewline : entry.symbol ≠ '\n' := by
    intro he
    have hb := h.not_blank
    rw [he] at hb
    exact absurd hb (by decide)
  have hmark : '\n' ∉ assignmentMark := by decide
  refine ⟨⟨?_, ?_, ?_, ?_⟩, ?_, ne_closingLine_of_length ?_⟩
  · simp [ht]
  · simp [ht, hnewline.symm, hmark, h.raw.one_line]
  · simpa [ht] using h.not_blank
  · -- the line ends as the colour ends
    intro c hc
    apply h.raw.trimmed.2
    rw [ht, ← List.cons_append, List.getLast?_append_of_ne_nil _ h.raw.ne_nil] at hc
    exact hc
  · simpa [ht] using h.not_comment
  · simp [ht, assignmentMark]

theorem toList_offsetLine (offset : Offset) :
    offset.line.toList =
      (toString offset.x.toInt).toList ++ 'x' :: (toString offset.y.toInt).toList := by
  simp [Offset.line, offsetMark]

/-- The characters of an offset line stand between the plus sign and the mark. -/
theorem mem_offsetLine {offset : Offset} {c : Char} (hc : c ∈ offset.line.toList) :
    '+'.toNat ≤ c.toNat ∧ c.toNat ≤ 'x'.toNat := by
  have hnumber : ∀ n : Int, c ∈ (toString n).toList →
      '+'.toNat ≤ c.toNat ∧ c.toNat ≤ 'x'.toNat := by
    intro n hm
    obtain ⟨hl, hu⟩ := (Text.spells_toString n).mem hm
    exact ⟨hl, Nat.le_trans hu (by decide)⟩
  rw [toList_offsetLine, List.mem_append, List.mem_cons] at hc
  rcases hc with hc | rfl | hc
  · exact hnumber _ hc
  · decide
  · exact hnumber _ hc

theorem isLongLine_offsetLine (offset : Offset) : IsLongLine offset.line := by
  have habsent : ∀ c : Char, ¬ ('+'.toNat ≤ c.toNat ∧ c.toNat ≤ 'x'.toNat) →
      c ∉ offset.line.toList := fun c h hc => h (mem_offsetLine hc)
  refine ⟨⟨?_, habsent '\n' (by decide), Text.trimmed_of_forall fun c hc => ?_⟩, ?_, ?_⟩
  · simp [toList_offsetLine]
  · obtain ⟨hl, hu⟩ := mem_offsetLine hc
    exact Text.isBlank_of_visible (Nat.le_trans (by decide) hl) (Nat.le_trans hu (by decide))
  · exact fun h => habsent '#' (by decide) (List.mem_of_head? h)
  · intro h
    exact habsent '}' (by decide) (by simp [h])

theorem isLongLine_token (mode : StitchMode) : IsLongLine mode.token := by
  cases mode <;> decide

theorem isLongLine_commitWord : IsLongLine commitWord := by decide

/-- Each of the blocks an action is written in can be written. -/
theorem Action.WrittenAs.printable {colours : ColourTable} {action : Action}
    {blocks : List Block} (hw : action.WellFormed colours) (h : action.WrittenAs blocks) :
    ∀ block ∈ blocks, block.Printable := by
  obtain ⟨mode, entries, _, hp, rfl⟩ := h
  have hsingle : ∀ (kind : BlockKind) {line : String}, IsLongLine line →
      Block.Printable ⟨kind.word, [line]⟩ := by
    intro kind line hl
    exact printable_of_lines (List.cons_ne_nil _ _) (by simpa using hl)
  have hpalette : Block.Printable
      ⟨"palette", entries.map fun (symbol, entry) => assignmentLine symbol entry⟩ := by
    refine @printable_of_lines .palette _ ?_ ?_
    · intro hnil
      rw [List.map_eq_nil_iff] at hnil
      rw [hnil, List.nil_perm, ← List.isEmpty_iff, Std.ExtTreeMap.isEmpty_toList,
        Std.ExtTreeMap.isEmpty_iff] at hp
      exact hw.palette hp
    · intro line hl
      obtain ⟨⟨symbol, entry⟩, he, rfl⟩ := List.mem_map.mp hl
      have hget := Std.ExtTreeMap.mem_toList_iff_getElem?_eq_some.mp (hp.mem_iff.mp he)
      rw [← hw.keyed symbol entry hget]
      exact isLongLine_assignmentLine (hw.entry symbol entry hget)
  have hpattern : Block.Printable ⟨"pattern", action.rows⟩ :=
    @printable_of_lines .pattern _ hw.rows hw.row
  simp only [List.forall_mem_cons, List.not_mem_nil, false_implies, implies_true, and_true]
  exact ⟨hpalette, hsingle .offset (isLongLine_offsetLine action.offset),
    hsingle .mode (isLongLine_token mode), hpattern, hsingle .action isLongLine_commitWord⟩

/-! ### Reading what was written -/

/-- An offset line asks for the offset it holds. -/
theorem isOffset_line (offset : Offset) : IsOffset offset.line offset := by
  have hmark : ∀ n : Int, 'x' ∉ (toString n).toList := by
    intro n hm
    have hu := ((Text.spells_toString n).mem hm).2
    exact absurd hu (by decide)
  have hspells : ∀ n : Int, Text.Spells (Text.trim (toString n).toList) n := by
    intro n
    rw [Text.trim_eq_self (Text.spells_toString n).trimmed]
    exact Text.spells_toString n
  exact ⟨_, _, toList_offsetLine offset, hmark _, hmark _, hspells _, hspells _⟩

theorem isAssignment_line {colours : ColourTable} {entry : PaletteEntry}
    (h : entry.Writable colours) :
    IsAssignment colours (assignmentLine entry.symbol entry) entry := by
  refine ⟨⟨entry.raw.toList, String.toList_ofList, h.no_mark, ?_⟩, h.resolved⟩
  rw [Text.trim_eq_self h.raw.trimmed, String.ofList_toList]

/-- The blocks of an action ask for its parts, whatever the order of the palette. -/
theorem Action.WrittenAs.asks {colours : ColourTable} {action : Action} {blocks : List Block}
    (hw : action.WellFormed colours) (h : action.WrittenAs blocks) :
    ∃ mode, action.mode = some mode ∧ List.Forall₂ (Block.Asks colours) blocks
      [.palette action.palette, .offset action.offset, .mode mode, .pattern action.rows,
        .commit] := by
  obtain ⟨mode, entries, hm, hp, rfl⟩ := h
  have hlines : List.Forall₂ (IsAssignment colours)
      (entries.map fun (symbol, entry) => assignmentLine symbol entry)
      (entries.map Prod.snd) := by
    rw [List.forall₂_map_left_iff, List.forall₂_map_right_iff, List.forall₂_same]
    rintro ⟨symbol, entry⟩ he
    have hget := Std.ExtTreeMap.mem_toList_iff_getElem?_eq_some.mp (hp.mem_iff.mp he)
    rw [← hw.keyed symbol entry hget]
    exact isAssignment_line (hw.entry symbol entry hget)
  have hdistinct : ((entries.map Prod.snd).map PaletteEntry.symbol).Nodup := by
    rw [List.map_map]
    exact nodup_symbols_of_perm hp hw.keyed
  have hextend := (Palette.extend_of_perm hp hw.keyed).symm
  refine ⟨mode, hm, .cons ⟨rfl, _, hlines, hdistinct, hextend⟩ ?_⟩
  refine .cons ⟨rfl, _, rfl, isOffset_line action.offset⟩ ?_
  exact .cons ⟨rfl, rfl⟩ (.cons ⟨rfl, rfl⟩ (.cons ⟨rfl, rfl⟩ .nil))

/-- No drawing and no mode has been asked for since the last commit. -/
structure Session.Fresh (session : Session) : Prop where
  rows : session.current.rows = []
  mode : session.current.mode = none

/-- The parts of an action are granted to a fresh session, which commits the action and
is fresh again. -/
theorem Session.Fresh.grant_action {session : Session} (hf : session.Fresh) {action : Action}
    {mode : StitchMode} (hr : action.rows ≠ []) (hm : action.mode = some mode) :
    [Request.palette action.palette, .offset action.offset, .mode mode, .pattern action.rows,
      .commit].foldlM Session.grant session =
      some ⟨{ action with rows := [], mode := none }, session.committed ++ [action]⟩ := by
  obtain ⟨⟨palette, mode', rows', offset⟩, committed⟩ := session
  obtain ⟨rfl, rfl⟩ := hf
  obtain ⟨palette', _, rows, offset'⟩ := action
  cases hm
  cases rows with
  | nil => exact absurd rfl hr
  | cons row rows => rfl

/-- The blocks of actions commit just these actions. -/
theorem feedAll_written {colours : ColourTable} {actions : List Action}
    {parts : List (List Block)} (h : List.Forall₂ Action.WrittenAs actions parts)
    (hw : ∀ action ∈ actions, action.WellFormed colours) {session : Session}
    (hf : session.Fresh) :
    ∃ next, session.feedAll colours parts.flatten = .ok next ∧ next.Fresh ∧
      next.committed = session.committed ++ actions := by
  induction h generalizing session with
  | nil => exact ⟨session, rfl, hf, (List.append_nil _).symm⟩
  | @cons action blocks actions parts hblocks _ ih =>
    have hfirst := hw action List.mem_cons_self
    obtain ⟨mode, hm, hasks⟩ := hblocks.asks hfirst
    have hgrant := hf.grant_action hfirst.rows hm
    have hafter : Session.Fresh
        ⟨{ action with rows := [], mode := none }, session.committed ++ [action]⟩ := ⟨rfl, rfl⟩
    obtain ⟨next, hfeed, hfresh, hcommitted⟩ :=
      ih (fun a ha => hw a (List.mem_cons_of_mem _ ha)) hafter
    obtain ⟨requests, hrest, hgrants⟩ := feedAll_eq_ok_iff.mp hfeed
    refine ⟨next, feedAll_eq_ok_iff.mpr ⟨_, List.rel_append hasks hrest, ?_⟩, hfresh, ?_⟩
    · rw [List.foldlM_append, hgrant]
      exact hgrants
    · rw [hcommitted, List.append_assoc]
      rfl

theorem actionsOfBlocks_written {colours : ColourTable} {actions : List Action}
    {blocks : List Block} (hw : ∀ action ∈ actions, action.WellFormed colours)
    (h : ActionsWrittenAs actions blocks) :
    actionsOfBlocks colours blocks = .ok actions := by
  obtain ⟨parts, hparts, rfl⟩ := h
  have hstart : Session.start.Fresh := ⟨rfl, rfl⟩
  obtain ⟨next, hfeed, hfresh, hcommitted⟩ := feedAll_written hparts hw hstart
  refine bind_eq_ok_iff.mpr ⟨next, hfeed, ?_⟩
  have hnone : next.current.hasPattern = false := by
    simp [Action.hasPattern, hfresh.rows]
  rw [Session.finish, hnone, hcommitted]
  rfl

theorem exists_actionsWrittenAs {colours : ColourTable} {actions : List Action}
    (hw : ∀ action ∈ actions, action.WellFormed colours) :
    ∃ blocks, ActionsWrittenAs actions blocks := by
  induction actions with
  | nil => exact ⟨[], [], .nil, rfl⟩
  | cons action actions ih =>
    obtain ⟨hfirst, hrest⟩ := List.forall_mem_cons.mp hw
    obtain ⟨mode, hm⟩ := Option.isSome_iff_exists.mp hfirst.mode
    obtain ⟨_, parts, hparts, rfl⟩ := ih hrest
    exact ⟨_, _ :: parts, .cons ⟨mode, _, hm, List.Perm.refl _, rfl⟩ hparts, rfl⟩

theorem ActionsWrittenAs.printable {colours : ColourTable} {actions : List Action}
    {blocks : List Block} (hw : ∀ action ∈ actions, action.WellFormed colours)
    (h : ActionsWrittenAs actions blocks) : ∀ block ∈ blocks, block.Printable := by
  obtain ⟨parts, hparts, rfl⟩ := h
  induction hparts with
  | nil => exact nofun
  | cons hblocks _ ih =>
    obtain ⟨hfirst, hrest⟩ := List.forall_mem_cons.mp hw
    intro block hb
    rcases List.mem_append.mp hb with hb | hb
    · exact hblocks.printable hfirst block hb
    · exact ih hrest block hb

/-- Actions that can be written are written somehow, and however they are written, in
whatever forms of blocks and orders of palettes, they are read back. -/
theorem parseActions_writtenText (context : ChartContext) (actions : List Action)
    (hne : actions ≠ []) (hw : ∀ action ∈ actions, action.WellFormed context.colours) :
    (∃ printed : List WrittenBlock, ActionsWrittenAs actions (printed.map WrittenBlock.block)) ∧
      ∀ printed : List WrittenBlock, ActionsWrittenAs actions (printed.map WrittenBlock.block) →
        parseActions context (writtenText printed) = .ok actions := by
  constructor
  · obtain ⟨blocks, hblocks⟩ := exists_actionsWrittenAs hw
    obtain ⟨printed, rfl⟩ := exists_writtenBlocks (hblocks.printable hw)
    exact ⟨printed, hblocks⟩
  · intro printed hprinted
    have hactions := actionsOfBlocks_written hw hprinted
    have hsome : printed.map WrittenBlock.block ≠ [] := by
      intro hnil
      rw [hnil] at hactions
      cases hactions
      exact hne rfl
    have hb : (printed.map WrittenBlock.block).isEmpty = false := List.isEmpty_eq_false_iff.mpr hsome
    have ha : actions.isEmpty = false := List.isEmpty_eq_false_iff.mpr hne
    rw [parseActions, readAll_writtenText]
    simp only [bind, Except.bind, hb, hactions, ha]
    rfl

/-- An action whose rows look like the start and the end of a block, at the edge of the
range of offsets. -/
def edgeAction : Action where
  palette := Palette.extend ∅ [⟨'}', "#f00", "#f00"⟩, ⟨'x', noColour, noColour⟩]
  mode := some .diagonalSlash
  rows := ["\x7dx => \x7b", "x\x7d"]
  offset := ⟨-2147483648, 7⟩

theorem parseActions_edgeAction :
    (∀ action ∈ [edgeAction, edgeAction], action.WellFormed ColourTable.empty) ∧
      ∃ printed : List WrittenBlock,
        ActionsWrittenAs [edgeAction, edgeAction] (printed.map WrittenBlock.block) ∧
          parseActions ⟨ColourTable.empty, ⟨fun _ => .ok "", none, 0⟩⟩ (writtenText printed) =
            .ok [edgeAction, edgeAction] := by
  have hentries : ∀ (symbol : Char) (entry : PaletteEntry),
      edgeAction.palette[symbol]? = some entry →
        entry ∈ [⟨'}', "#f00", "#f00"⟩, ⟨'x', noColour, noColour⟩] ∧ entry.symbol = symbol :=
    fun _ _ => (Palette.getElem?_extend_eq_some_iff (by decide)).mp
  have hwritable : ∀ entry ∈ [PaletteEntry.mk '}' "#f00" "#f00", ⟨'x', noColour, noColour⟩],
      entry.Writable ColourTable.empty := by
    rintro entry (_ | ⟨_, _ | ⟨_, ⟨⟩⟩⟩)
    · refine ⟨by decide, by decide, by decide, by decide, ?_⟩
      simp [ColourTable.resolveOrLiteral, ColourTable.resolve, ColourTable.empty]
    · exact ⟨by decide, by decide, by decide, by decide, rfl⟩
  have hw : edgeAction.WellFormed ColourTable.empty := by
    refine ⟨?_, fun s e h => (hentries s e h).2, fun s e h => hwritable e (hentries s e h).1,
      rfl, by decide, by decide⟩
    have hx : 'x' ∈ edgeAction.palette := by simp [edgeAction, Palette.extend]
    exact Std.ExtTreeMap.ne_empty_of_mem hx
  have hall : ∀ action ∈ [edgeAction, edgeAction], action.WellFormed ColourTable.empty := by
    simpa using hw
  obtain ⟨⟨printed, hprinted⟩, hread⟩ := parseActions_writtenText
    ⟨ColourTable.empty, ⟨fun _ => .ok "", none, 0⟩⟩ [edgeAction, edgeAction]
    (List.cons_ne_nil _ _) hall
  exact ⟨hall, printed, hprinted, hread printed hprinted⟩

end CrossStitch
