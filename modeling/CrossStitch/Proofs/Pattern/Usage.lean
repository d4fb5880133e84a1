import CrossStitch.Proofs.Render.Extent

/-! The usage table of a pattern. It has the colours that are stitched, whatever the mode, and
only these. Each is labelled with a spelling that a palette gives to it. -/

namespace CrossStitch

theorem values_eq_map_toList (usages : Std.ExtTreeMap String Usage) :
    usages.values = usages.toList.map Prod.snd := by
  have hfold : usages.values = usages.foldr (fun _ usage rest => usage :: rest) [] := rfl
  rw [hfold, Std.ExtTreeMap.foldr_eq_foldr_toList, List.map_eq_foldr]

/-- What one stroke was made with stands in the palette of the action. -/
theorem exists_dye_of_mem_strokesMade {action : Action} {spelled : SpelledDab}
    (h : spelled ∈ action.strokesMade) :
    ∃ (symbol : Char) (dye : PaletteEntry), action.palette[symbol]? = some dye ∧
      dye.resolved = spelled.dab.strand.colour ∧ dye.raw = spelled.spelling := by
  rw [Action.strokesMade] at h
  split at h
  · cases h
  · obtain ⟨symbol, _, hs⟩ := List.mem_filterMap.mp h
    obtain ⟨dab, hdab, hs⟩ := Option.bind_eq_some_iff.mp hs
    obtain ⟨dye, hdye, hs⟩ := Option.bind_eq_some_iff.mp hs
    cases hs
    refine ⟨symbol.char, dye, hdye, ?_, rfl⟩
    rw [Symbol.dab?, hdye] at hdab
    dsimp only at hdab
    split at hdab
    · cases hdab
    · cases hdab
      rfl

variable {actions : List Action} {pattern : Pattern}

/-- A painted pattern takes its entries and its usage table from a builder with its books in
order. -/
theorem exists_books (h : patternOfActions actions = .ok pattern) :
    ∃ builder : Builder, builder.Books (actions.flatMap Action.strokesMade) ∧
      pattern.entries = builder.entries.toList ∧ pattern.usage = builder.usage := by
  obtain ⟨builder, hadd, hbuild⟩ := bind_eq_ok_iff.mp h
  obtain ⟨size, _, rfl⟩ := map_eq_ok_iff.mp hbuild
  refine ⟨builder, ?_, rfl, rfl⟩
  rw [← Builder.addEach_of_addAll hadd]
  exact Builder.kept_books.addEach Builder.books_start actions

theorem Pattern.Made.mem_usage_iff (hp : pattern.Made) (colour : String) :
    colour ∈ pattern.usage ↔ ∃ entry ∈ pattern.entries, entry.strand.colour = colour := by
  cases hp with
  | painted h =>
    obtain ⟨builder, hbooks, hentries, husage⟩ := exists_books h
    rw [husage, hentries, hbooks.mem_usage_iff]
    simp only [Array.mem_toList_iff]
  | blank h =>
    rw [Pattern.entries_of_blank h]
    obtain ⟨n, _, rfl⟩ := map_eq_ok_iff.mp h
    simp

/-- Whatever is shown of a pattern is in its usage table. -/
theorem Pattern.Made.exists_usage_of_slot (hp : pattern.Made) {extent : Nat} {grid : Grid}
    (hg : Grid.ofPattern pattern extent = .ok grid) {x y : Nat} {mode : StitchMode}
    {colour : String} (hs : (grid.look x y).slot mode = some colour) :
    ∃ usage, pattern.usage? colour = some usage := by
  obtain ⟨part, hpart, hstrand, _⟩ := Grid.exists_part_of_slot hp hg hs
  obtain ⟨entry, he, rfl⟩ := List.mem_map.mp hpart
  have hmem : colour ∈ pattern.usage :=
    (hp.mem_usage_iff colour).mpr ⟨entry, he, congrArg Strand.colour hstrand⟩
  exact Option.isSome_iff_exists.mp (Std.ExtTreeMap.isSome_getElem?_iff_mem.mpr hmem)

/-- The colours of a usage table are those that were dabbed on. -/
theorem mem_usage_iff_mem_dabs (h : patternOfActions actions = .ok pattern) (colour : String) :
    colour ∈ pattern.usage ↔ ∃ dab ∈ actions.flatMap Action.dabs, dab.strand.colour = colour := by
  have hp : pattern.Made := .painted h
  rw [hp.mem_usage_iff]
  constructor
  · rintro ⟨entry, he, rfl⟩
    obtain ⟨cell, hc⟩ := List.exists_mem_of_ne_nil _ (hp.filled entry he).cells_ne_nil
    obtain ⟨stroke, hs, hdab⟩ := hp.exists_stroke_iff.mpr ⟨entry, he, rfl, hc⟩
    have hmem := mem_of_mem_numbered ((mem_strokes_iff h).mp hs).mem
    exact ⟨stroke.dab, hmem, by rw [hdab]⟩
  · rintro ⟨⟨cell, strand⟩, hd, rfl⟩
    obtain ⟨number, hlatest⟩ := exists_isLatest_iff.mpr hd
    obtain ⟨entry, he, rfl, _⟩ :=
      hp.exists_stroke_iff.mp ⟨⟨number, cell, strand⟩, (mem_strokes_iff h).mpr hlatest, rfl⟩
    exact ⟨entry, he, rfl⟩

/-- A label is how some palette spells the colour, and never that of the reserved colour. -/
theorem exists_dye_of_usage (h : patternOfActions actions = .ok pattern) {colour : String}
    {usage : Usage} (hu : pattern.usage? colour = some usage) :
    colour ≠ noColour ∧ ∃ action ∈ actions, ∃ (symbol : Char) (dye : PaletteEntry),
      action.palette[symbol]? = some dye ∧ dye.resolved = colour ∧ dye.raw = usage.label := by
  obtain ⟨builder, hbooks, _, husage⟩ := exists_books h
  rw [Pattern.usage?, husage] at hu
  have hlast : lastSpelling (actions.flatMap Action.strokesMade) colour = some usage.label := by
    rw [← hbooks.label, hu]
    rfl
  obtain ⟨spelled, hget, hspelling⟩ := Option.map_eq_some_iff.mp hlast
  obtain ⟨hmade, hcolour⟩ := List.mem_filter.mp (List.mem_of_getLast? hget)
  have hcolour : spelled.dab.strand.colour = colour := of_decide_eq_true hcolour
  obtain ⟨action, ha, hs⟩ := List.mem_flatMap.mp hmade
  obtain ⟨symbol, dye, hdye, hresolved, hraw⟩ := exists_dye_of_mem_strokesMade hs
  refine ⟨hcolour ▸ hbooks.coloured spelled hmade, action, ha, symbol, dye, hdye, ?_, ?_⟩
  · rw [hresolved, hcolour]
  · rw [hraw, hspelling]

end CrossStitch
