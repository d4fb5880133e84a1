import CrossStitch.Proofs.Pattern.Usage
import Mathlib.Data.List.Dedup
import Mathlib.Data.List.Sort

/-! The order in which a pattern keeps what was painted. Its entries stand in the order in which
their strands were first used. Its strokes, one for each strand and cell, stand in the order in
which they were last made, whatever numbers they have. -/

namespace CrossStitch

/-- Something at the end is left out if it is not new. -/
theorem eraseDups_concat {α : Type} [BEq α] [LawfulBEq α] (l : List α) (a : α) :
    (l ++ [a]).eraseDups = if a ∈ l then l.eraseDups else l.eraseDups ++ [a] := by
  rw [List.eraseDups_append]
  by_cases h : a ∈ l <;> simp [List.removeAll, List.eraseDups_cons, h]

/-! ### Entries -/

/-- The strands of strokes, in the order in which they were first used. -/
def strandsUsed (made : List SpelledDab) : List Strand :=
  (made.map fun spelled => spelled.dab.strand).eraseDups

theorem map_strand_modify (entries : List Entry) (i : Nat) (cell : Cell) (number : Nat) :
    (entries.modify i fun entry => entry.paint cell number).map Entry.strand =
      entries.map Entry.strand := by
  apply List.ext_getElem?
  intro j
  rw [List.getElem?_map, List.getElem?_modify, List.getElem?_map]
  cases entries[j]? with
  | none => rfl
  | some entry => by_cases hi : i = j <;> simp [hi]

namespace Builder

variable {builder : Builder} {made : List SpelledDab}

/-- A strand gets an entry at the end when it is first looked up. -/
theorem Holds.strands_locate {dabs : List Dab} (h : builder.Holds dabs) (strand : Strand) :
    (builder.locate strand).1.entries.toList.map Entry.strand =
      if strand ∈ builder.entries.toList.map Entry.strand then
        builder.entries.toList.map Entry.strand
      else builder.entries.toList.map Entry.strand ++ [strand] := by
  unfold Builder.locate
  cases hp : builder.index[strand]? with
  | some position =>
    obtain ⟨entry, he, hstrand⟩ := (h.index strand position).mp hp
    have he := Array.mem_toList_iff.mpr (Array.mem_of_getElem? he)
    rw [if_pos (List.mem_map.mpr ⟨entry, he, hstrand⟩)]
  | none =>
    have hnew : strand ∉ builder.entries.toList.map Entry.strand := by
      intro hm
      obtain ⟨entry, he, hstrand⟩ := List.mem_map.mp hm
      obtain ⟨i, hi⟩ := List.mem_iff_getElem?.mp he
      rw [Array.getElem?_toList] at hi
      rw [(h.index strand i).mpr ⟨entry, hi, hstrand⟩] at hp
      cases hp
    rw [if_neg hnew]
    simp [Entry.blank]

theorem Holds.strands_stroke {dabs : List Dab} (h : builder.Holds dabs) (mode : StitchMode)
    (dye : PaletteEntry) (cell : Cell) :
    (builder.stroke mode dye cell).entries.toList.map Entry.strand =
      if ⟨dye.resolved, mode⟩ ∈ builder.entries.toList.map Entry.strand then
        builder.entries.toList.map Entry.strand
      else builder.entries.toList.map Entry.strand ++ [⟨dye.resolved, mode⟩] := by
  rw [← h.strands_locate, Builder.stroke, Array.toList_modify, map_strand_modify]

/-- The books, with the entries in the order of their first strokes. -/
structure OrderedBooks (builder : Builder) (made : List SpelledDab) : Prop where
  books : builder.Books made
  strands : builder.entries.toList.map Entry.strand = strandsUsed made

theorem orderedBooks_start : start.OrderedBooks [] :=
  ⟨books_start, rfl⟩

theorem OrderedBooks.stroke (h : builder.OrderedBooks made) (mode : StitchMode)
    (dye : PaletteEntry) (cell : Cell) (hc : dye.resolved ≠ noColour) :
    (builder.stroke mode dye cell).OrderedBooks
      (made ++ [⟨⟨cell, ⟨dye.resolved, mode⟩⟩, dye.raw⟩]) where
  books := h.books.stroke mode dye cell hc
  strands := by
    rw [h.books.holds.strands_stroke, h.strands, strandsUsed, strandsUsed, List.map_append,
      List.map_singleton, eraseDups_concat]
    simp only [List.mem_eraseDups]

theorem kept_orderedBooks : Kept OrderedBooks :=
  ⟨fun h place => ⟨h.books.extend place, h.strands⟩,
    fun h mode dye cell hc => h.stroke mode dye cell hc⟩

end Builder

variable {actions : List Action} {pattern : Pattern}

theorem map_strand_entries (h : patternOfActions actions = .ok pattern) :
    pattern.entries.map Entry.strand = strandsUsed (actions.flatMap Action.strokesMade) := by
  obtain ⟨builder, hadd, hbuild⟩ := bind_eq_ok_iff.mp h
  obtain ⟨size, _, rfl⟩ := map_eq_ok_iff.mp hbuild
  rw [← Builder.addEach_of_addAll hadd]
  exact (Builder.kept_orderedBooks.addEach Builder.orderedBooks_start actions).strands

/-! ### Strokes -/

theorem nodup_numbers (h : patternOfActions actions = .ok pattern) :
    (pattern.strokes.map Stroke.number).Nodup := by
  obtain ⟨builder, hbooks, hentries, _⟩ := exists_books h
  have hperm : (pattern.strokes.map Stroke.number).Perm builder.numbers := by
    rw [Builder.numbers, ← hentries]
    refine ((List.mergeSort_perm _ _).map _).trans (List.Perm.of_eq ?_)
    rw [List.map_flatMap]
    simp only [List.map_map]
    rfl
  exact hperm.nodup_iff.mpr hbooks.holds.numbers_nodup

theorem strokes_increasing (h : patternOfActions actions = .ok pattern) :
    pattern.strokes.Pairwise fun a b => a.number < b.number := by
  have hne := nodup_numbers h
  rw [List.Nodup, List.pairwise_map] at hne
  exact ((strokes_sorted pattern).and hne).imp fun ⟨hle, hne⟩ => Nat.lt_of_le_of_ne hle hne

/-- Of strokes in order of their numbers, those that are not repeated later. -/
theorem map_dab_filter_latest {strokes : List Stroke}
    (h : strokes.Pairwise fun a b => a.number < b.number) :
    (strokes.filter fun stroke => ∀ other ∈ strokes, other.dab = stroke.dab →
      other.number ≤ stroke.number).map Stroke.dab = (strokes.map Stroke.dab).dedup := by
  induction strokes with
  | nil => rfl
  | cons first rest ih =>
    obtain ⟨hfirst, hrest⟩ := List.pairwise_cons.mp h
    -- the first stroke has the lowest number, so it does not matter to the others
    have hothers : rest.filter (fun stroke => ∀ other ∈ first :: rest, other.dab = stroke.dab →
        other.number ≤ stroke.number) = rest.filter fun stroke => ∀ other ∈ rest,
          other.dab = stroke.dab → other.number ≤ stroke.number := by
      apply List.filter_congr
      intro stroke hs
      have hle := Nat.le_of_lt (hfirst stroke hs)
      simp [hle]
    have hrepeated : (∀ other ∈ first :: rest, other.dab = first.dab →
        other.number ≤ first.number) ↔ first.dab ∉ rest.map Stroke.dab := by
      rw [List.forall_mem_cons, and_iff_right fun _ => Nat.le_refl _, List.mem_map]
      constructor
      · rintro hlast ⟨other, ho, hdab⟩
        exact Nat.not_lt.mpr (hlast other ho hdab) (hfirst other ho)
      · intro hnone other ho hdab
        exact absurd ⟨other, ho, hdab⟩ hnone
    rw [List.filter_cons, hothers, List.map_cons, List.dedup_cons, ← ih hrest]
    simp only [decide_eq_true_eq, hrepeated]
    by_cases hm : first.dab ∈ rest.map Stroke.dab
    · rw [if_neg (not_not.mpr hm), if_pos hm]
    · rw [if_pos hm, if_neg hm, List.map_cons]

/-- A pattern keeps the dabs in the order in which they were made, without those that were made
again later. -/
theorem map_dab_strokes (h : patternOfActions actions = .ok pattern) :
    pattern.strokes.map Stroke.dab = (actions.flatMap Action.dabs).dedup := by
  have hnumbered := numbered_increasing (actions.flatMap Action.dabs)
  have hkept : pattern.strokes = (numbered (actions.flatMap Action.dabs)).filter fun stroke =>
      ∀ other ∈ numbered (actions.flatMap Action.dabs), other.dab = stroke.dab →
        other.number ≤ stroke.number := by
    have : Std.Irrefl fun a b : Stroke => a.number < b.number := ⟨fun a => Nat.lt_irrefl a.number⟩
    have : Std.Antisymm fun a b : Stroke => a.number < b.number :=
      ⟨fun a b hab hba => absurd hab (Nat.lt_asymm hba)⟩
    refine (strokes_increasing h).eq_of_mem_iff (hnumbered.filter _) fun stroke => ?_
    rw [mem_strokes_iff h, List.mem_filter, decide_eq_true_eq]
    constructor
    · intro hl
      refine ⟨hl.mem, fun other ho hdab => ?_⟩
      exact hl.last other ho (congrArg Dab.cell hdab) (congrArg Dab.strand hdab)
    · rintro ⟨hm, hl⟩
      refine ⟨hm, fun other ho hc hs => hl other ho ?_⟩
      rw [Stroke.dab, Stroke.dab, hc, hs]
  rw [hkept, map_dab_filter_latest hnumbered, map_dab_numbered]

end CrossStitch
