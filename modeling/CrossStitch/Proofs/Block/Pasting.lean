import CrossStitch.Proofs.Block.Appending

/-! Including is pasting. What follows lines that are read to their end is read as if it stood
alone. An include block therefore comes to the same as the lines of its files in its place,
except that the pasted lines are less deep down: the include limit may stop the reader in the
files and not in the pasted text. -/

namespace CrossStitch

theorem goesAsFar_append {includes : Includes} {lines a b : List SourceLine}
    (h : (readBlocks includes lines).2 = none)
    (hab : includes.GoesAsFar (readBlocks includes a) (readBlocks includes b)) :
    includes.GoesAsFar (readBlocks includes (lines ++ a)) (readBlocks includes (lines ++ b)) := by
  have ha := outcome_readBlocks_append includes lines h a
  have hb := outcome_readBlocks_append includes lines h b
  rcases hab with hab | ⟨hdeep, hprefix⟩
  · exact .inl (by rw [ha, hb, hab])
  · obtain ⟨hblocks, _⟩ := Prod.mk.inj ha
    obtain ⟨hblocks', hfault⟩ := Prod.mk.inj hb
    refine .inr ⟨hfault.trans hdeep, ?_⟩
    rw [hblocks, hblocks']
    exact (List.prefix_append_right_inj _).mpr hprefix

/-- Of two readings of which one goes as far as the other, either both come to the same or
the other was stopped by the include limit. -/
theorem readAll_of_goesAsFar {includes : Includes} {a b : List SourceLine}
    (h : includes.GoesAsFar (readBlocks includes a) (readBlocks includes b)) :
    (∀ blocks, readAll includes b = .ok blocks → readAll includes a = .ok blocks) ∧
    (∀ fault, readAll includes b = .error fault → fault.untraced ≠ includes.tooDeep →
      ∃ other, readAll includes a = .error other ∧ other.untraced = fault.untraced) ∧
    ∀ blocks fault, readAll includes a = .ok blocks → readAll includes b = .error fault →
      fault.untraced = includes.tooDeep := by
  simp only [readAll_eq_ok_iff, readAll_eq_error_iff]
  rcases h with h | ⟨hdeep, _⟩
  · obtain ⟨hblocks, hfault⟩ := Prod.mk.inj h
    refine ⟨?_, ?_, ?_⟩
    · intro blocks hb
      rw [hb] at hblocks hfault
      exact Prod.ext hblocks (Option.map_eq_none_iff.mp hfault)
    · intro fault hb _
      rw [hb] at hfault
      exact Option.map_eq_some_iff.mp hfault
    · intro blocks fault ha hb
      rw [ha, hb] at hfault
      cases hfault
  · have hstop : ∀ fault, (readBlocks includes b).2 = some fault →
        fault.untraced = includes.tooDeep := by
      intro fault hb
      rw [outcome, hb] at hdeep
      exact Option.some.inj hdeep
    refine ⟨?_, fun fault hb hne => absurd (hstop fault hb) hne, fun _ fault _ hb => hstop fault hb⟩
    intro blocks hb
    rw [outcome, hb] at hdeep
    cases hdeep

/-! ### Includes -/

/-- The files that names lead to can be read and hold these texts. -/
def Includes.Reads (includes : Includes) : List String → List String → Prop :=
  List.Forall₂ fun name text => includes.files (includes.path name) = .ok text

theorem Includes.Reads.load {includes : Includes} {names texts : List String}
    (h : includes.Reads names texts) (depth : Nat) :
    includes.load depth names = .ok (linesAt depth (texts.flatMap Text.lines)) := by
  induction h with
  | nil => rfl
  | cons hname _ ih =>
    rw [Includes.load, hname, ih]
    simp [sourceLines, linesAt]

theorem linesAt_append (depth : Nat) (a b : List String) :
    linesAt depth (a ++ b) = linesAt depth a ++ linesAt depth b :=
  List.map_append

theorem noDeeper_linesAt {d e : Nat} (h : d ≤ e) (lines : List String) :
    NoDeeper (linesAt d lines) (linesAt e lines) := by
  have hmap : linesAt d lines = (linesAt e lines).map fun line => ⟨line.text, d⟩ := by
    simp [linesAt]
  rw [hmap]
  apply noDeeper_map_depth
  intro line hl
  obtain ⟨text, _, rfl⟩ := List.mem_map.mp hl
  exact h

/-- The lines of the files in the place of an include block are read as far as the block. -/
theorem goesAsFar_include {includes : Includes} {block names texts : List String}
    (hblock : scan (linesAt 0 block) = .found ⟨includeMode, names⟩ 0 [])
    (hreads : includes.Reads names texts) (after : List SourceLine) :
    includes.GoesAsFar (readBlocks includes (linesAt 0 (texts.flatMap Text.lines) ++ after))
      (readBlocks includes (linesAt 0 block ++ after)) := by
  rw [readBlocks_of_include (scan_append_of_found hblock after) rfl, Includes.expand, hreads.load]
  by_cases hlimit : 0 < includes.limit
  · rw [if_pos hlimit]
    refine readBlocks_noDeeper includes _ _ ?_
    exact (noDeeper_linesAt (Nat.zero_le _) _).append (noDeeper_of_substance_eq rfl)
  · rw [if_neg hlimit]
    exact .inr ⟨rfl, List.nil_prefix⟩

/-- Including files is pasting their lines in the place of the include block. The blocks
read are the same, and so are all faults but one: only the included lines can lie too deep. -/
theorem readAll_pasted {includes : Includes} {before block after names texts : List String}
    (hbefore : ∃ blocks, readAll includes (linesAt 0 before) = .ok blocks)
    (hblock : scan (linesAt 0 block) = .found ⟨includeMode, names⟩ 0 [])
    (hreads : includes.Reads names texts) :
    let included := readAll includes (linesAt 0 (before ++ block ++ after))
    let pasted := readAll includes (linesAt 0 (before ++ texts.flatMap Text.lines ++ after))
    (∀ blocks, included = .ok blocks → pasted = .ok blocks) ∧
    (∀ fault, included = .error fault → fault.untraced ≠ includes.tooDeep →
      ∃ other, pasted = .error other ∧ other.untraced = fault.untraced) ∧
    ∀ blocks fault, pasted = .ok blocks → included = .error fault →
      fault.untraced = includes.tooDeep := by
  obtain ⟨blocks, hblocks⟩ := hbefore
  have hread : (readBlocks includes (linesAt 0 before)).2 = none := by
    rw [readAll_eq_ok_iff.mp hblocks]
  simp only [linesAt_append, List.append_assoc]
  exact readAll_of_goesAsFar (goesAsFar_append hread (goesAsFar_include hblock hreads _))

/-- A file that includes another one and leaves a block open. -/
def nestedIncludes : Includes where
  files path :=
    if path = "tail" then .ok "include => \x7binner\x7d\nmode => \x7b"
    else .ok "offset => \x7b1x1\x7d\n"
  root := none
  limit := 2

/-- The block left open by a file is closed by what follows the include block. -/
theorem readAll_pasted_openBlock :
    (∃ blocks, readAll nestedIncludes (linesAt 0 ["a => \x7bx\x7d"]) = .ok blocks) ∧
    scan (linesAt 0 ["include => \x7b", " tail", "\x7d"]) = .found ⟨includeMode, ["tail"]⟩ 0 [] ∧
    nestedIncludes.Reads ["tail"] ["include => \x7binner\x7d\nmode => \x7b"] ∧
    readAll nestedIncludes (linesAt 0
        (["a => \x7bx\x7d"] ++ ["include => \x7b", " tail", "\x7d"] ++ ["xstitch", "\x7d"])) =
      .ok [⟨"a", ["x"]⟩, ⟨"offset", ["1x1"]⟩, ⟨"mode", ["xstitch"]⟩] ∧
    readAll nestedIncludes (linesAt 0
        (["a => \x7bx\x7d"] ++ ["include => \x7binner\x7d\nmode => \x7b"].flatMap Text.lines ++
          ["xstitch", "\x7d"])) =
      .ok [⟨"a", ["x"]⟩, ⟨"offset", ["1x1"]⟩, ⟨"mode", ["xstitch"]⟩] := by
  have hbefore : readAll nestedIncludes (linesAt 0 ["a => \x7bx\x7d"]) = .ok [⟨"a", ["x"]⟩] := by
    have ha : scan (linesAt 0 ["a => \x7bx\x7d"]) = .found ⟨"a", ["x"]⟩ 0 [] := by decide
    rw [readAll_eq_ok_iff, readBlocks_of_found ha (by decide), readBlocks_of_exhausted scan_nil]
  have hblock : scan (linesAt 0 ["include => \x7b", " tail", "\x7d"]) =
      .found ⟨includeMode, ["tail"]⟩ 0 [] := by decide
  have hreads : nestedIncludes.Reads ["tail"] ["include => \x7binner\x7d\nmode => \x7b"] :=
    .cons rfl .nil
  have hincluded : readAll nestedIncludes (linesAt 0
      (["a => \x7bx\x7d"] ++ ["include => \x7b", " tail", "\x7d"] ++ ["xstitch", "\x7d"])) =
      .ok [⟨"a", ["x"]⟩, ⟨"offset", ["1x1"]⟩, ⟨"mode", ["xstitch"]⟩] := by
    have ha : scan (linesAt 0 (["a => \x7bx\x7d"] ++ ["include => \x7b", " tail", "\x7d"] ++
        ["xstitch", "\x7d"])) = .found ⟨"a", ["x"]⟩ 0
          (linesAt 0 ["include => \x7b", " tail", "\x7d", "xstitch", "\x7d"]) := by decide
    have htail : scan (linesAt 0 ["include => \x7b", " tail", "\x7d", "xstitch", "\x7d"]) =
        .found ⟨"include", ["tail"]⟩ 0 (linesAt 0 ["xstitch", "\x7d"]) := by decide
    have hopen : nestedIncludes.expand 0 ["tail"] =
        .ok (linesAt 1 ["include => \x7binner\x7d", "mode => \x7b"]) := by cbv
    have hinner : scan (linesAt 1 ["include => \x7binner\x7d", "mode => \x7b"] ++
        linesAt 0 ["xstitch", "\x7d"]) = .found ⟨"include", ["inner"]⟩ 1
          (linesAt 1 ["mode => \x7b"] ++ linesAt 0 ["xstitch", "\x7d"]) := by decide
    have hfurther : nestedIncludes.expand 1 ["inner"] =
        .ok (linesAt 2 ["offset => \x7b1x1\x7d"]) := by cbv
    have hoffset : scan (linesAt 2 ["offset => \x7b1x1\x7d"] ++
        (linesAt 1 ["mode => \x7b"] ++ linesAt 0 ["xstitch", "\x7d"])) =
          .found ⟨"offset", ["1x1"]⟩ 2
            (linesAt 1 ["mode => \x7b"] ++ linesAt 0 ["xstitch", "\x7d"]) := by decide
    have hmode : scan (linesAt 1 ["mode => \x7b"] ++ linesAt 0 ["xstitch", "\x7d"]) =
        .found ⟨"mode", ["xstitch"]⟩ 1 [] := by decide
    rw [readAll_eq_ok_iff, readBlocks_of_found ha (by decide), readBlocks_of_include htail rfl,
      hopen]
    simp only [readBlocks_of_include hinner rfl, hfurther, readBlocks_of_found hoffset (by decide),
      readBlocks_of_found hmode (by decide), readBlocks_of_exhausted scan_nil]
  exact ⟨⟨_, hbefore⟩, hblock, hreads, hincluded,
    (readAll_pasted ⟨_, hbefore⟩ hblock hreads).1 _ hincluded⟩

end CrossStitch
