import CrossStitch.Proofs.Block.Layout
import CrossStitch.Proofs.Block.Writing

/-! Reading lines one list after the other. A scan never looks past the block that it finds,
and lines that are read to their end leave nothing behind but idle lines. So what follows them
is read as if it stood alone: the blocks of the whole are those of the first lines and then
those of the second, and if the second are at fault, the whole is at fault in the same way. The
idle lines left over only show in the lines that the fault is traced to. -/

namespace CrossStitch

/-- A list that is cut at its first element without a property is cut there whatever
follows it. -/
theorem takeWhile_dropWhile_append {α : Type} {p : α → Bool} {l rest : List α} {c : α}
    (h : l.dropWhile p = c :: rest) (more : List α) :
    (l ++ more).takeWhile p = l.takeWhile p ∧ (l ++ more).dropWhile p = c :: (rest ++ more) := by
  have hc : p c = false := by simpa [h] using List.head?_dropWhile_not p l
  have hp : ∀ x ∈ l.takeWhile p, p x = true := fun x hx => List.mem_takeWhile_imp hx
  have hl : l ++ more = l.takeWhile p ++ c :: (rest ++ more) := by
    conv_lhs => rw [← @List.takeWhile_append_dropWhile _ p l, h]
    simp
  rw [hl, List.takeWhile_append_of_pos hp, List.dropWhile_append_of_pos hp]
  simp [hc]

theorem scanBody_append_of_found {mode : String} {depth d : Nat}
    {before lines rest : List SourceLine} {block : Block}
    (h : scanBody mode depth before lines = .found block d rest) (more : List SourceLine) :
    scanBody mode depth before (lines ++ more) = .found block d (rest ++ more) := by
  simp only [scanBody] at h ⊢
  split at h
  · cases h
  next closing after hd =>
    obtain ⟨htake, hdrop⟩ := takeWhile_dropWhile_append hd more
    rw [htake, hdrop]
    split at h
    · cases h
    next hbody =>
      cases h
      simp [hbody]

/-- A block that is found is found whatever follows. -/
theorem scan_append_of_found {lines rest : List SourceLine} {block : Block} {depth : Nat}
    (h : scan lines = .found block depth rest) (more : List SourceLine) :
    scan (lines ++ more) = .found block depth (rest ++ more) := by
  simp only [scan] at h ⊢
  split at h
  · cases h
  next line after hd =>
    obtain ⟨htake, hdrop⟩ := takeWhile_dropWhile_append hd more
    rw [htake, hdrop]
    dsimp only
    split at h
    · exact scanBody_append_of_found h more
    · cases h
      rfl
    · cases h

/-- Lines that are read without a fault leave nothing behind. -/
theorem outcome_readBlocks_append (includes : Includes) (lines : List SourceLine) :
    (readBlocks includes lines).2 = none → ∀ more,
      outcome (readBlocks includes (lines ++ more)) =
        ((readBlocks includes lines).1 ++ (outcome (readBlocks includes more)).1,
          (outcome (readBlocks includes more)).2) := by
  induction lines using reading_induction includes with
  | step lines found expanded =>
    intro h more
    cases hs : scan lines with
    | broken kind trace => simp [readBlocks_of_broken hs] at h
    | exhausted =>
      rw [readBlocks_of_exhausted hs, List.nil_append]
      apply outcome_readBlocks_of_stateSame (.refl includes)
      rw [substance_append, substance_of_exhausted hs, List.nil_append]
    | found block depth rest =>
      have hsm := scan_append_of_found hs more
      by_cases hm : block.mode = includeMode
      · rw [readBlocks_of_include hs hm] at h ⊢
        rw [readBlocks_of_include hsm hm]
        cases he : includes.expand depth block.lines with
        | error fault => simp [he] at h
        | ok inserted =>
          rw [he] at h
          dsimp only at h ⊢
          rw [← List.append_assoc]
          exact expanded block depth rest inserted hs hm he h more
      · rw [readBlocks_of_found hs hm] at h ⊢
        rw [readBlocks_of_found hsm hm]
        obtain ⟨hblocks, hfault⟩ := Prod.mk.inj (found block depth rest hs hm h more)
        exact Prod.ext (congrArg (block :: ·) hblocks) hfault

/-- Reading takes lists of lines one after the other. If the first lines are read to their end,
the second follow as they are read alone, up to their end or their fault. -/
theorem readAll_append {includes : Includes} {first : List SourceLine} {blocks : List Block}
    (h : readAll includes first = .ok blocks) (second : List SourceLine) :
    (∀ later, readAll includes second = .ok later →
      readAll includes (first ++ second) = .ok (blocks ++ later)) ∧
    ∀ later fault, readBlocks includes second = (later, some fault) →
      ∃ other, readBlocks includes (first ++ second) = (blocks ++ later, some other) ∧
        readAll includes (first ++ second) = .error other ∧
        other.untraced = fault.untraced := by
  have hfirst : readBlocks includes first = (blocks, none) := readAll_eq_ok_iff.mp h
  have happend := outcome_readBlocks_append includes first (by rw [hfirst]) second
  rw [hfirst] at happend
  obtain ⟨hblocks, hfault⟩ := Prod.mk.inj happend
  constructor
  · intro later hlater
    rw [readAll_eq_ok_iff] at hlater ⊢
    rw [hlater] at hblocks hfault
    exact Prod.ext hblocks (Option.map_eq_none_iff.mp hfault)
  · intro later fault hlater
    rw [hlater] at hblocks hfault
    obtain ⟨other, hother, huntraced⟩ := Option.map_eq_some_iff.mp hfault
    exact ⟨other, Prod.ext hblocks hother, readAll_eq_error_iff.mpr hother, huntraced⟩

/-- Every file sets the mode and ends in a comment. -/
def modeIncludes : Includes where
  files _ := .ok "mode => \x7bxstitch\x7d\n# set"
  root := none
  limit := 1

/-- An idle line is left over, an include block follows, and then an end or a fault. -/
theorem readAll_append_leftover :
    readAll modeIncludes (linesAt 0 ["a => \x7bx\x7d", "  # end"]) = .ok [⟨"a", ["x"]⟩] ∧
    readAll modeIncludes (linesAt 0 ["include => \x7bm\x7d"]) = .ok [⟨"mode", ["xstitch"]⟩] ∧
    readAll modeIncludes (linesAt 0 ["a => \x7bx\x7d", "  # end"] ++
      linesAt 0 ["include => \x7bm\x7d"]) = .ok [⟨"a", ["x"]⟩, ⟨"mode", ["xstitch"]⟩] ∧
    readBlocks modeIncludes (linesAt 0 ["include => \x7bm\x7d", "oops"]) =
      ([⟨"mode", ["xstitch"]⟩], some (.chart .expectedStartOfBlock ["# set", "oops"])) ∧
    ∃ other, readBlocks modeIncludes (linesAt 0 ["a => \x7bx\x7d", "  # end"] ++
        linesAt 0 ["include => \x7bm\x7d", "oops"]) =
          ([⟨"a", ["x"]⟩, ⟨"mode", ["xstitch"]⟩], some other) ∧
      other.untraced = .chart .expectedStartOfBlock [] := by
  have hfirst : readAll modeIncludes (linesAt 0 ["a => \x7bx\x7d", "  # end"]) =
      .ok [⟨"a", ["x"]⟩] := by
    have ha : scan (linesAt 0 ["a => \x7bx\x7d", "  # end"]) =
        .found ⟨"a", ["x"]⟩ 0 (linesAt 0 ["  # end"]) := by decide
    have hend : scan (linesAt 0 ["  # end"]) = .exhausted := by decide
    rw [readAll_eq_ok_iff, readBlocks_of_found ha (by decide), readBlocks_of_exhausted hend]
  have hexpand : modeIncludes.expand 0 ["m"] =
      .ok (linesAt 1 ["mode => \x7bxstitch\x7d", "# set"]) := by cbv
  have hended : readAll modeIncludes (linesAt 0 ["include => \x7bm\x7d"]) =
      .ok [⟨"mode", ["xstitch"]⟩] := by
    have hinclude : scan (linesAt 0 ["include => \x7bm\x7d"]) =
        .found ⟨"include", ["m"]⟩ 0 [] := by decide
    have hmode : scan (linesAt 1 ["mode => \x7bxstitch\x7d", "# set"] ++ []) =
        .found ⟨"mode", ["xstitch"]⟩ 1 (linesAt 1 ["# set"]) := by decide
    have hset : scan (linesAt 1 ["# set"]) = .exhausted := by decide
    rw [readAll_eq_ok_iff, readBlocks_of_include hinclude rfl, hexpand]
    simp only [readBlocks_of_found hmode (by decide), readBlocks_of_exhausted hset]
  have hfailed : readBlocks modeIncludes (linesAt 0 ["include => \x7bm\x7d", "oops"]) =
      ([⟨"mode", ["xstitch"]⟩], some (.chart .expectedStartOfBlock ["# set", "oops"])) := by
    have hinclude : scan (linesAt 0 ["include => \x7bm\x7d", "oops"]) =
        .found ⟨"include", ["m"]⟩ 0 (linesAt 0 ["oops"]) := by decide
    have hmode : scan (linesAt 1 ["mode => \x7bxstitch\x7d", "# set"] ++ linesAt 0 ["oops"]) =
        .found ⟨"mode", ["xstitch"]⟩ 1 (linesAt 1 ["# set"] ++ linesAt 0 ["oops"]) := by decide
    have hoops : scan (linesAt 1 ["# set"] ++ linesAt 0 ["oops"]) =
        .broken .expectedStartOfBlock ["# set", "oops"] := by decide
    rw [readBlocks_of_include hinclude rfl, hexpand]
    simp only [readBlocks_of_found hmode (by decide), readBlocks_of_broken hoops]
  obtain ⟨other, hother, _, huntraced⟩ := (readAll_append hfirst _).2 _ _ hfailed
  exact ⟨hfirst, hended, (readAll_append hfirst _).1 _ hended, hfailed, other, hother, huntraced⟩

end CrossStitch
