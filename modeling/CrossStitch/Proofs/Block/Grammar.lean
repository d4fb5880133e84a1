import CrossStitch.Proofs.Block.Likeness
import CrossStitch.Proofs.Block.Printable

/-! The block grammar by lines. Lines are all idle, or they begin with the lines of a block, or
with lines of which the last is at fault, or they leave a block open at their end. A scan tells
which of these it is. What it finds is told by the lines up to the one that decides, and lines
after that one make no difference. -/

namespace CrossStitch

/-- A list is cut at its first element without a property, if there is one. -/
theorem forall_or_first {α : Type} (p : α → Bool) (l : List α) :
    (∀ x ∈ l, p x = true) ∨
      ∃ before x after, l = before ++ x :: after ∧ (∀ y ∈ before, p y = true) ∧ p x = false := by
  cases h : l.find? fun x => !p x with
  | none =>
    left
    simpa using h
  | some x =>
    obtain ⟨hx, before, after, rfl, hbefore⟩ := List.find?_eq_some_iff_append.mp h
    exact .inr ⟨before, x, after, rfl, by simpa using hbefore, by simpa using hx⟩

/-! ### Lines of blocks -/

/-- The texts of a body over several lines, as they stand in the source. -/
def bodyTexts (body : List SourceLine) : List (List Char) :=
  (body.filter fun line => !line.isIdle).map fun line => line.text.toList

/-- The lines of a block and the idle lines before it, with its mode, the texts of its body as they
stand in the source, and the depth of its opening line. -/
inductive BlockLines : List SourceLine → String → List (List Char) → Nat → Prop
  /-- The body of a block on one line stands between the braces. -/
  | short {idle : List SourceLine} {line : SourceLine} {mode : String} {body : List Char}
    (hidle : ∀ l ∈ idle, l.isIdle = true) (hline : line.isIdle = false)
    (hcontent : line.content = mode.toList ++ openingMark ++ body ++ ['}'])
    (hmode : ¬ openingMark <:+: mode.toList) (hbody : ¬ openingMark <:+: body)
    (hne : Text.trim body ≠ []) : BlockLines (idle ++ [line]) mode [body] line.depth
  /-- The body of a block over several lines goes on up to the first closing line. -/
  | long {idle body : List SourceLine} {line closing : SourceLine} {mode : String}
    (hidle : ∀ l ∈ idle, l.isIdle = true) (hline : line.isIdle = false)
    (hcontent : line.content = mode.toList ++ openingMark)
    (hmode : ¬ openingMark <:+: mode.toList) (hbody : ∀ l ∈ body, l.closes = false)
    (hne : bodyTexts body ≠ []) (hclosing : closing.closes = true) :
    BlockLines (idle ++ line :: (body ++ [closing])) mode (bodyTexts body) line.depth

/-- The block is read from the lines. The texts of the body lose the blanks around them. -/
def Block.ReadFrom (block : Block) (lines : List SourceLine) (depth : Nat) : Prop :=
  ∃ texts, BlockLines lines block.mode texts depth ∧
    block.lines = texts.map fun text => String.ofList (Text.trim text)

/-- Lines up to the first that is at fault. -/
inductive FaultyLines : List SourceLine → ChartFault → Prop
  /-- The last line should open a block and cannot. -/
  | opening {idle : List SourceLine} {line : SourceLine} {kind : ChartFault}
    (hidle : ∀ l ∈ idle, l.isIdle = true) (hline : line.isIdle = false)
    (hopening : opening line.content = .broken kind) : FaultyLines (idle ++ [line]) kind
  /-- The last line closes a block that has no body. -/
  | empty {idle body : List SourceLine} {line closing : SourceLine} {mode : String}
    (hidle : ∀ l ∈ idle, l.isIdle = true) (hline : line.isIdle = false)
    (hcontent : line.content = mode.toList ++ openingMark)
    (hmode : ¬ openingMark <:+: mode.toList) (hbody : ∀ l ∈ body, l.isIdle = true)
    (hclosing : closing.closes = true) :
    FaultyLines (idle ++ line :: (body ++ [closing])) .emptyBlock

/-- The faults that a line can have. An open block is not the fault of any line. -/
def lineFaults : List ChartFault :=
  [.invalidStartBlock, .singleLineBlockInvalid, .emptyBlock, .expectedStartOfBlock]

/-- Lines at whose end a block is open. -/
inductive LeavesOpen : List SourceLine → Prop
  | intro {idle body : List SourceLine} {line : SourceLine} {mode : String}
    (hidle : ∀ l ∈ idle, l.isIdle = true) (hline : line.isIdle = false)
    (hcontent : line.content = mode.toList ++ openingMark)
    (hmode : ¬ openingMark <:+: mode.toList) (hbody : ∀ l ∈ body, l.closes = false) :
    LeavesOpen (idle ++ line :: body)

/-! ### Opening lines -/

/-- After the last occurrence of the opening mark in a line that ends in it nothing comes. -/
theorem eq_nil_of_openingMark_suffix {before after : List Char}
    (h : openingMark <:+ before ++ openingMark ++ after) (ha : ¬ openingMark <:+: after) :
    after = [] := by
  by_contra hne
  obtain ⟨front, hfront⟩ := h
  rcases List.append_eq_append_iff.mp hfront with ⟨middle, hbefore, hmark⟩ | ⟨middle, _, hafter⟩
  · -- the two occurrences would overlap in `middle`, but the brace is only at the end of the mark
    have hlast : middle.getLast? = some '{' := by
      have hm : middle ≠ [] := by
        rintro rfl
        exact ha (hmark ▸ List.infix_rfl)
      have hg := congrArg List.getLast? hbefore
      rw [List.getLast?_append_of_ne_nil _ hm, List.getLast?_append] at hg
      exact hg.symm
    have hmem : '{' ∈ openingMark.dropLast := by
      rw [hmark, List.dropLast_append_of_ne_nil hne]
      exact List.mem_append_left _ (List.mem_of_getLast? hlast)
    exact absurd hmem (by decide)
  · exact ha ⟨middle, [], by simp [hafter]⟩

theorem opening_eq_below_iff {text : List Char} {mode : String} :
    opening text = .below mode ↔
      text = mode.toList ++ openingMark ∧ ¬ openingMark <:+: mode.toList := by
  constructor
  · intro h
    obtain ⟨_, _, hmode⟩ := opening_eq_below h
    unfold opening at h
    split at h
    next hsuffix =>
      split at h
      next before after hp =>
        cases h
        obtain ⟨rfl, _, hafter⟩ := (Text.pair?_eq_some_iff (by decide)).mp hp
        obtain rfl := eq_nil_of_openingMark_suffix (by simpa using hsuffix) hafter
        exact ⟨by simp, hmode⟩
      · cases h
    next =>
      split at h
      · split at h
        · cases h
        · split at h
          · cases h
          · split at h <;> cases h
      · cases h
  · rintro ⟨rfl, hmode⟩
    rw [opening_append_openingMark hmode, String.ofList_toList]

theorem mem_lineFaults_of_opening {text : List Char} {kind : ChartFault}
    (h : opening text = .broken kind) : kind ∈ lineFaults := by
  unfold opening at h
  split at h
  · split at h
    · cases h
    · cases h
      decide
  · split at h
    · split at h
      · cases h
        decide
      · split at h
        · cases h
          decide
        · split at h
          · cases h
            decide
          · cases h
    · cases h
      decide

theorem FaultyLines.kind_mem {lines : List SourceLine} {kind : ChartFault}
    (h : FaultyLines lines kind) : kind ∈ lineFaults := by
  cases h with
  | opening _ _ ho => exact mem_lineFaults_of_opening ho
  | empty => decide

/-! ### Scanning -/

section Scan

variable {idle body lines rest : List SourceLine} {line closing : SourceLine}

theorem scan_of_idle (h : ∀ l ∈ lines, l.isIdle = true) : scan lines = .exhausted :=
  scan_of_substance_nil (substance_eq_nil_iff.mpr h)

/-- The first line that is not idle opens the block. -/
theorem scan_of_first (hidle : ∀ l ∈ idle, l.isIdle = true) (hline : line.isIdle = false)
    (rest : List SourceLine) :
    scan (idle ++ line :: rest) =
      match opening line.content with
      | .below mode => scanBody mode line.depth (idle ++ [line]) rest
      | .whole block => .found block line.depth rest
      | .broken kind => .broken kind (rawLines (idle ++ [line])) := by
  have hdrop : (idle ++ line :: rest).dropWhile SourceLine.isIdle = line :: rest := by
    rw [List.dropWhile_append_of_pos hidle, List.dropWhile_cons_of_neg (by simp [hline])]
  have htake : (idle ++ line :: rest).takeWhile SourceLine.isIdle = idle := by
    rw [List.takeWhile_append_of_pos hidle, List.takeWhile_cons_of_neg (by simp [hline]),
      List.append_nil]
  have hscan := scan_of_dropWhile hdrop
  rwa [htake] at hscan

theorem scanBody_closed (hbody : ∀ l ∈ body, l.closes = false) (hclosing : closing.closes = true)
    (mode : String) (depth : Nat) (before rest : List SourceLine) :
    scanBody mode depth before (body ++ closing :: rest) =
      if (bodyLines body).isEmpty then
        .broken .emptyBlock (rawLines (before ++ body ++ [closing]))
      else .found ⟨mode, bodyLines body⟩ depth rest := by
  have hopen : ∀ l ∈ body, (!l.closes) = true := fun l hl => by simp [hbody l hl]
  have htake : (body ++ closing :: rest).takeWhile (fun l => !l.closes) = body := by
    rw [List.takeWhile_append_of_pos hopen, List.takeWhile_cons_of_neg (by simp [hclosing]),
      List.append_nil]
  have hdrop : (body ++ closing :: rest).dropWhile (fun l => !l.closes) = closing :: rest := by
    rw [List.dropWhile_append_of_pos hopen, List.dropWhile_cons_of_neg (by simp [hclosing])]
  simp only [scanBody, htake, hdrop]

theorem scanBody_open (hbody : ∀ l ∈ body, l.closes = false) (mode : String) (depth : Nat)
    (before : List SourceLine) :
    scanBody mode depth before body = .broken (.unclosedBlock 1) (rawLines (before ++ body)) := by
  have hopen : ∀ l ∈ body, (!l.closes) = true := fun l hl => by simp [hbody l hl]
  have hdrop : body.dropWhile (fun l => !l.closes) = [] := by simpa using hopen
  have htake : body.takeWhile (fun l => !l.closes) = body := by simpa using hopen
  simp only [scanBody, htake, hdrop]

theorem bodyLines_eq_map (body : List SourceLine) :
    bodyLines body = (bodyTexts body).map fun text => String.ofList (Text.trim text) := by
  simp [bodyLines, bodyTexts, SourceLine.content]

theorem bodyTexts_eq_nil_iff : bodyTexts body = [] ↔ ∀ l ∈ body, l.isIdle = true := by
  simp [bodyTexts, List.filter_eq_nil_iff]

/-- A block is found in its lines, whatever comes after them. -/
theorem Block.ReadFrom.scan_append {block : Block} {depth : Nat} (h : block.ReadFrom lines depth)
    (rest : List SourceLine) : scan (lines ++ rest) = .found block depth rest := by
  obtain ⟨mode, trimmedLines⟩ := block
  obtain ⟨texts, hlines, rfl⟩ := h
  cases hlines with
  | short hidle hline hcontent hmode hbody hne =>
    rw [List.append_assoc, List.singleton_append, scan_of_first hidle hline, hcontent,
      opening_whole hmode hbody hne, String.ofList_toList]
    rfl
  | long hidle hline hcontent hmode hbody hne hclosing =>
    rw [List.append_assoc, List.cons_append, scan_of_first hidle hline,
      opening_eq_below_iff.mpr ⟨hcontent, hmode⟩, List.append_assoc, List.singleton_append]
    dsimp only
    rw [scanBody_closed hbody hclosing, bodyLines_eq_map, if_neg (by simpa using hne)]

theorem not_closes_of_isIdle (h : line.isIdle = true) : line.closes = false := by
  rw [← Bool.not_eq_true]
  intro hc
  rw [isIdle_of_closes hc] at h
  cases h

/-- A fault is found in the lines up to it, whatever comes after them. -/
theorem FaultyLines.scan_append {kind : ChartFault} (h : FaultyLines lines kind)
    (rest : List SourceLine) : scan (lines ++ rest) = .broken kind (rawLines lines) := by
  cases h with
  | opening hidle hline hopening =>
    rw [List.append_assoc, List.singleton_append, scan_of_first hidle hline, hopening]
  | empty hidle hline hcontent hmode hbody hclosing =>
    have hnone := bodyTexts_eq_nil_iff.mpr hbody
    have hopen := fun l hl => not_closes_of_isIdle (hbody l hl)
    rw [List.append_assoc, List.cons_append, scan_of_first hidle hline,
      opening_eq_below_iff.mpr ⟨hcontent, hmode⟩, List.append_assoc, List.singleton_append]
    dsimp only
    rw [scanBody_closed hopen hclosing, bodyLines_eq_map, if_pos (by simp [hnone])]
    simp

/-- An open block is found at the end of all lines. -/
theorem LeavesOpen.scan (h : LeavesOpen lines) :
    scan lines = .broken (.unclosedBlock 1) (rawLines lines) := by
  cases h with
  | intro hidle hline hcontent hmode hbody =>
    rw [scan_of_first hidle hline, opening_eq_below_iff.mpr ⟨hcontent, hmode⟩]
    dsimp only
    rw [scanBody_open hbody, List.append_assoc, List.singleton_append]

/-- What lines can be. -/
theorem lines_cases (lines : List SourceLine) :
    (∀ l ∈ lines, l.isIdle = true) ∨
      (∃ used rest block depth, lines = used ++ rest ∧ Block.ReadFrom block used depth) ∨
      (∃ used rest kind, lines = used ++ rest ∧ FaultyLines used kind) ∨ LeavesOpen lines := by
  rcases forall_or_first SourceLine.isIdle lines with hidle | ⟨idle, line, rest, rfl, hidle, hline⟩
  · exact .inl hidle
  right
  cases ho : opening line.content with
  | whole block =>
    obtain ⟨mode, body, rfl, hcontent, hmode, hbody, hne⟩ := opening_eq_whole ho
    refine .inl ⟨idle ++ [line], rest, ⟨String.ofList mode, [String.ofList (Text.trim body)]⟩,
      line.depth, by simp, [body], ?_, rfl⟩
    exact .short hidle hline (by simpa using hcontent) (by simpa using hmode) hbody hne
  | broken kind => exact .inr (.inl ⟨idle ++ [line], rest, kind, by simp, .opening hidle hline ho⟩)
  | below mode =>
    obtain ⟨hcontent, hmode⟩ := opening_eq_below_iff.mp ho
    rcases forall_or_first (fun l => !l.closes) rest with
      hopen | ⟨body, closing, after, rfl, hopen, hclosing⟩
    · exact .inr (.inr (.intro hidle hline hcontent hmode (by simpa using hopen)))
    have hbody : ∀ l ∈ body, l.closes = false := by simpa using hopen
    have hclosing : closing.closes = true := by simpa using hclosing
    have hlines : idle ++ line :: (body ++ closing :: after) =
        idle ++ line :: (body ++ [closing]) ++ after := by simp
    by_cases hne : bodyTexts body = []
    · refine .inr (.inl ⟨_, after, .emptyBlock, hlines, ?_⟩)
      exact .empty hidle hline hcontent hmode (bodyTexts_eq_nil_iff.mp hne) hclosing
    · refine .inl ⟨_, after, ⟨mode, bodyLines body⟩, line.depth, hlines, bodyTexts body, ?_, ?_⟩
      · exact .long hidle hline hcontent hmode hbody hne hclosing
      · exact bodyLines_eq_map body

theorem scan_eq_exhausted_iff : scan lines = .exhausted ↔ ∀ l ∈ lines, l.isIdle = true :=
  ⟨fun h => substance_eq_nil_iff.mp (substance_of_exhausted h), scan_of_idle⟩

/-- A scan finds the block that the lines begin with. -/
theorem scan_eq_found_iff {block : Block} {depth : Nat} :
    scan lines = .found block depth rest ↔
      ∃ used, lines = used ++ rest ∧ block.ReadFrom used depth := by
  constructor
  · intro h
    rcases lines_cases lines with
      hidle | ⟨used, after, other, d, rfl, hread⟩ | ⟨used, after, kind, rfl, hfaulty⟩ | hopen
    · cases h.symm.trans (scan_of_idle hidle)
    · cases h.symm.trans (hread.scan_append after)
      exact ⟨used, rfl, hread⟩
    · cases h.symm.trans (hfaulty.scan_append after)
    · cases h.symm.trans hopen.scan
  · rintro ⟨used, rfl, hread⟩
    exact hread.scan_append rest

/-- A scan fails at the first line at fault, or for want of a closing line. -/
theorem scan_eq_broken_iff {kind : ChartFault} {trace : List String} :
    scan lines = .broken kind trace ↔
      (∃ used rest, lines = used ++ rest ∧ FaultyLines used kind ∧ trace = rawLines used) ∨
        (LeavesOpen lines ∧ kind = .unclosedBlock 1 ∧ trace = rawLines lines) := by
  constructor
  · intro h
    rcases lines_cases lines with
      hidle | ⟨used, after, other, d, rfl, hread⟩ | ⟨used, after, kind, rfl, hfaulty⟩ | hopen
    · cases h.symm.trans (scan_of_idle hidle)
    · cases h.symm.trans (hread.scan_append after)
    · cases h.symm.trans (hfaulty.scan_append after)
      exact .inl ⟨used, after, rfl, hfaulty, rfl⟩
    · cases h.symm.trans hopen.scan
      exact .inr ⟨hopen, rfl, rfl⟩
  · rintro (⟨used, rest, rfl, hfaulty, rfl⟩ | ⟨hopen, rfl, rfl⟩)
    · exact hfaulty.scan_append rest
    · exact hopen.scan

end Scan

end CrossStitch
