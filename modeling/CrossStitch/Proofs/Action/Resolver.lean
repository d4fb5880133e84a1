import CrossStitch.Proofs.Chart.Resolution

/-! Sessions with any resolver. A colour table is one way to look names up, and a session that is
fed a block looks up no names but the spellings in its palette lines. So with any other resolver
it does what it does with a table of the resolver's answers to these. -/

namespace CrossStitch

namespace Resolver

/-- A palette line that gives an entry, with the colour that the resolver finds. -/
structure Assigns (resolver : Resolver) (line : String) (entry : PaletteEntry) : Prop where
  parts : ∃ colour, line.toList = entry.symbol :: (assignmentMark ++ colour) ∧
    ¬ assignmentMark <:+: colour ∧ entry.raw = String.ofList (Text.trim colour)
  resolved : entry.resolved = resolver.resolveOrLiteral entry.raw

/-! ### Answers of a table -/

variable (resolver : Resolver) (names : List String)

theorem getElem?_tabulate (name : String) :
    (resolver.tabulate names).named[name]? = if name ∈ names then resolver name else none := by
  induction names with
  | nil => simp [tabulate, ColourTable.empty]
  | cons first names ih =>
    rw [tabulate]
    by_cases hsame : first = name
    · subst hsame
      rw [if_pos List.mem_cons_self]
      split
      next hnone =>
        rw [ih, hnone, ite_self]
      next value hvalue => simp [ColourTable.insert, hvalue]
    · have hmem : name ∈ first :: names ↔ name ∈ names := by simp [Ne.symm hsame]
      simp only [hmem]
      split
      · exact ih
      · rw [ColourTable.insert, Std.ExtTreeMap.getElem?_insert,
          if_neg (Std.compare_eq_iff_eq.not.mpr hsame), ih]

theorem keywords_tabulate : (resolver.tabulate names).keywords = false := by
  induction names with
  | nil => rfl
  | cons first names ih =>
    rw [tabulate]
    split
    · exact ih
    · exact ih

variable {resolver names}

/-- A table answers as the resolver does, if it is asked for the right names. -/
theorem resolveOrLiteral_tabulate {name : String} (h : name ∈ names) :
    (resolver.tabulate names).resolveOrLiteral name = resolver.resolveOrLiteral name := by
  have hresolve : (resolver.tabulate names).resolve name = resolver name := by
    rw [ColourTable.resolve, getElem?_tabulate, if_pos h, keywords_tabulate]
    cases resolver name <;> rfl
  rw [ColourTable.resolveOrLiteral, resolveOrLiteral, hresolve]

/-- The spelling of an assignment is what is looked up. -/
theorem Assigns.spelling {line : String} {entry : PaletteEntry} (h : resolver.Assigns line entry) :
    spelling? line = some entry.raw := by
  obtain ⟨colour, hline, hmark, hraw⟩ := h.parts
  rw [spelling?, pair?_assignmentMark_iff.mpr ⟨hline, hmark⟩, hraw]

theorem assigns_resolve_iff {colours : ColourTable} {line : String} {entry : PaletteEntry} :
    Assigns colours.resolve line entry ↔ IsAssignment colours line entry :=
  ⟨fun h => ⟨h.parts, h.resolved⟩, fun h => ⟨h.parts, h.resolved⟩⟩

/-- So lines are assignments in the table if they are for the resolver. -/
theorem isAssignment_tabulate_iff {line : String} {entry : PaletteEntry}
    (h : ∀ raw, spelling? line = some raw → raw ∈ names) :
    IsAssignment (resolver.tabulate names) line entry ↔ resolver.Assigns line entry := by
  constructor
  · intro hline
    have hraw := h entry.raw (assigns_resolve_iff.mpr hline).spelling
    exact ⟨hline.parts, hline.resolved.trans (resolveOrLiteral_tabulate hraw)⟩
  · intro hline
    have hraw := h entry.raw hline.spelling
    exact ⟨hline.parts, hline.resolved.trans (resolveOrLiteral_tabulate hraw).symm⟩

/-- The same of the first lines of a block that are all assignments. -/
theorem forall₂_assigns {lines : List String} {entries : List PaletteEntry}
    (hnames : ∀ line ∈ lines, ∀ raw, spelling? line = some raw → raw ∈ names)
    (h : List.Forall₂ (IsAssignment (resolver.tabulate names)) lines entries) :
    List.Forall₂ resolver.Assigns lines entries := by
  have hboth := (List.forall₂_and_left lines entries).mpr ⟨hnames, h⟩
  exact hboth.imp fun _ _ ⟨hraw, hline⟩ => (isAssignment_tabulate_iff hraw).mp hline

end Resolver

theorem Block.mem_spellings {block : Block} (hk : block.mode = BlockKind.palette.word)
    {line raw : String} (hl : line ∈ block.lines) (hs : spelling? line = some raw) :
    raw ∈ block.spellings := by
  rw [spellings, if_pos (BlockKind.ofWord?_eq_some_iff.mpr hk)]
  exact List.mem_filterMap.mpr ⟨line, hl, hs⟩

/-- With the answers of a table it does what it does with the table. -/
theorem Session.feedBy_resolve (colours : ColourTable) (session : Session) (block : Block) :
    session.feedBy colours.resolve block = session.feed colours block :=
  feed_congr (fun _ hr => Resolver.resolveOrLiteral_tabulate hr) session

end CrossStitch
