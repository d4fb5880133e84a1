import CrossStitch.Proofs.Block.Reading
import Mathlib.Data.List.Forall2
import Mathlib.Data.List.TakeWhile

/-! Buffers that read alike. What the reader makes of a buffer depends on the contents and
the depths of its lines, and idle lines do not count. Of two buffers with the same contents
the one from less deep down reads at least as far: it is stopped by the include limit where
the other is, or later. Only the trace of a fault shows the lines as they were. -/

namespace CrossStitch

/-- The fault without the lines it is traced to. -/
def Fault.untraced : Fault → Fault
  | .chart kind _ => .chart kind []
  | .unreadableInclude path cause _ => .unreadableInclude path cause []
  | fault => fault

/-- What reading comes to, the trace of its fault apart. -/
def outcome (reading : List Block × Option Fault) : List Block × Option Fault :=
  (reading.1, reading.2.map Fault.untraced)

/-! ### Substance -/

/-- What lines carry: the contents and depths of those that are not idle. -/
def substance (lines : List SourceLine) : List (List Char × Nat) :=
  (lines.filter fun line => !line.isIdle).map fun line => (line.content, line.depth)

@[simp] theorem substance_nil : substance [] = [] := rfl

@[simp] theorem substance_append (a b : List SourceLine) :
    substance (a ++ b) = substance a ++ substance b := by
  simp [substance]

theorem substance_cons (line : SourceLine) (lines : List SourceLine) :
    substance (line :: lines) =
      if line.isIdle then substance lines else (line.content, line.depth) :: substance lines := by
  cases h : line.isIdle <;> simp [substance, h]

/-- The contents of entries as text. -/
def texts (entries : List (List Char × Nat)) : List String :=
  entries.map fun entry => String.ofList entry.1

theorem bodyLines_eq_texts (lines : List SourceLine) :
    bodyLines lines = texts (substance lines) := by
  simp [bodyLines, texts, substance]

theorem substance_eq_nil_iff {lines : List SourceLine} :
    substance lines = [] ↔ ∀ line ∈ lines, line.isIdle = true := by
  simp [substance, List.filter_eq_nil_iff]

/-- Idle lines in front carry nothing. -/
theorem substance_dropWhile_isIdle (lines : List SourceLine) :
    substance (lines.dropWhile SourceLine.isIdle) = substance lines := by
  have hidle : substance (lines.takeWhile SourceLine.isIdle) = [] :=
    substance_eq_nil_iff.mpr fun _ hl => List.mem_takeWhile_imp hl
  calc substance (lines.dropWhile SourceLine.isIdle)
      = substance (lines.takeWhile SourceLine.isIdle ++ lines.dropWhile SourceLine.isIdle) := by
        rw [substance_append, hidle, List.nil_append]
    _ = substance lines := by rw [List.takeWhile_append_dropWhile]

/-- Whether an entry does not come from a line that ends a block. -/
def staysOpen (entry : List Char × Nat) : Bool :=
  entry.1 != ['}']

theorem isIdle_of_closes {line : SourceLine} (h : line.closes = true) : line.isIdle = false := by
  have hc : line.content = ['}'] := by simpa [SourceLine.closes] using h
  simp [SourceLine.isIdle, hc]

theorem substance_takeWhile_closes (lines : List SourceLine) :
    substance (lines.takeWhile fun line => !line.closes) =
      (substance lines).takeWhile staysOpen := by
  induction lines with
  | nil => rfl
  | cons line lines ih =>
    have hentry : staysOpen (line.content, line.depth) = !line.closes := rfl
    cases hc : line.closes with
    | true => simp [substance_cons, hc, isIdle_of_closes hc, hentry]
    | false => cases hi : line.isIdle <;> simp [substance_cons, hc, hi, ih, hentry]

theorem substance_dropWhile_closes (lines : List SourceLine) :
    substance (lines.dropWhile fun line => !line.closes) =
      (substance lines).dropWhile staysOpen := by
  have h : (substance lines).takeWhile staysOpen ++
      substance (lines.dropWhile fun line => !line.closes) =
      (substance lines).takeWhile staysOpen ++ (substance lines).dropWhile staysOpen := by
    rw [List.takeWhile_append_dropWhile, ← substance_takeWhile_closes, ← substance_append,
      List.takeWhile_append_dropWhile]
  exact List.append_cancel_left h

/-! ### What a scan sees -/

theorem scan_of_substance_nil {lines : List SourceLine} (h : substance lines = []) :
    scan lines = .exhausted := by
  have hidle : lines.dropWhile SourceLine.isIdle = [] := by
    simpa using substance_eq_nil_iff.mp h
  simp [scan, hidle]

theorem substance_of_exhausted {lines : List SourceLine} (h : scan lines = .exhausted) :
    substance lines = [] := by
  simp only [scan] at h
  split at h
  next hd =>
    rw [← substance_dropWhile_isIdle, hd]
    rfl
  · split at h
    · simp only [scanBody] at h
      split at h
      · cases h
      · split at h <;> cases h
    · cases h
    · cases h

theorem scan_of_substance_cons {lines : List SourceLine} {content : List Char} {depth : Nat}
    {entries : List (List Char × Nat)} (h : substance lines = (content, depth) :: entries) :
    ∃ before rest, substance rest = entries ∧
      scan lines =
        match opening content with
        | .below mode => scanBody mode depth before rest
        | .whole block => .found block depth rest
        | .broken kind => .broken kind (rawLines before) := by
  rw [← substance_dropWhile_isIdle] at h
  cases hd : lines.dropWhile SourceLine.isIdle with
  | nil => simp [hd] at h
  | cons line rest =>
    have hi : line.isIdle = false := by
      simpa [hd] using List.head?_dropWhile_not SourceLine.isIdle lines
    rw [hd, substance_cons, hi] at h
    cases h
    exact ⟨_, rest, rfl, scan_of_dropWhile hd⟩

theorem scanBody_of_substance_nil {lines : List SourceLine}
    (h : (substance lines).dropWhile staysOpen = []) (mode : String) (depth : Nat)
    (before : List SourceLine) :
    ∃ trace, scanBody mode depth before lines = .broken (.unclosedBlock 1) trace := by
  rw [← substance_dropWhile_closes] at h
  cases hd : lines.dropWhile fun line => !line.closes with
  | nil =>
    refine ⟨rawLines (before ++ lines.takeWhile fun line => !line.closes), ?_⟩
    simp only [scanBody, hd]
  | cons closing after =>
    have hc : closing.closes = true := by
      simpa [hd] using List.head?_dropWhile_not (fun line => !SourceLine.closes line) lines
    simp [hd, substance_cons, isIdle_of_closes hc] at h

theorem scanBody_of_substance_cons {lines : List SourceLine} {closing : List Char × Nat}
    {entries : List (List Char × Nat)}
    (h : (substance lines).dropWhile staysOpen = closing :: entries) (mode : String) (depth : Nat)
    (before : List SourceLine) :
    ∃ trace rest, substance rest = entries ∧
      scanBody mode depth before lines =
        if (texts ((substance lines).takeWhile staysOpen)).isEmpty then .broken .emptyBlock trace
        else .found ⟨mode, texts ((substance lines).takeWhile staysOpen)⟩ depth rest := by
  rw [← substance_dropWhile_closes] at h
  cases hd : lines.dropWhile fun line => !line.closes with
  | nil => simp [hd] at h
  | cons line rest =>
    have hc : line.closes = true := by
      simpa [hd] using List.head?_dropWhile_not (fun line => !SourceLine.closes line) lines
    rw [hd, substance_cons, isIdle_of_closes hc] at h
    cases h
    refine ⟨rawLines (before ++ (lines.takeWhile fun line => !line.closes) ++ [line]), rest,
      rfl, ?_⟩
    rw [← substance_takeWhile_closes, ← bodyLines_eq_texts]
    simp only [scanBody, hd]

/-! ### Depths -/

/-- Entries of the same contents, none of the first deeper than its counterpart. -/
def EntriesNoDeeper : List (List Char × Nat) → List (List Char × Nat) → Prop :=
  List.Forall₂ fun x y => x.1 = y.1 ∧ x.2 ≤ y.2

/-- Lines of the same contents, none of the first deeper than its counterpart. -/
def NoDeeper (a b : List SourceLine) : Prop :=
  EntriesNoDeeper (substance a) (substance b)

theorem noDeeper_of_substance_eq {a b : List SourceLine} (h : substance a = substance b) :
    NoDeeper a b := by
  rw [NoDeeper, h, EntriesNoDeeper, List.forall₂_same]
  exact fun _ _ => ⟨rfl, Nat.le_refl _⟩

theorem NoDeeper.append {a b c d : List SourceLine} (h : NoDeeper a b) (h' : NoDeeper c d) :
    NoDeeper (a ++ c) (b ++ d) := by
  rw [NoDeeper, substance_append, substance_append]
  exact List.rel_append h h'

namespace EntriesNoDeeper

variable {a b : List (List Char × Nat)}

theorem texts_eq (h : EntriesNoDeeper a b) : texts a = texts b := by
  induction h with
  | nil => rfl
  | @cons x y as bs hxy _ ih =>
    simp only [texts, List.map_cons, hxy.1] at ih ⊢
    rw [ih]

/-- The same lines end a block in both. -/
theorem cut (h : EntriesNoDeeper a b) :
    EntriesNoDeeper (a.takeWhile staysOpen) (b.takeWhile staysOpen) ∧
      EntriesNoDeeper (a.dropWhile staysOpen) (b.dropWhile staysOpen) := by
  induction h with
  | nil => exact ⟨.nil, .nil⟩
  | @cons x y as bs hxy hrest ih =>
    have hopen : staysOpen x = staysOpen y := by rw [staysOpen, hxy.1, staysOpen]
    rw [List.takeWhile_cons, List.takeWhile_cons, List.dropWhile_cons, List.dropWhile_cons, hopen]
    split
    · exact ⟨.cons hxy ih.1, ih.2⟩
    · exact ⟨.nil, .cons hxy hrest⟩

end EntriesNoDeeper

/-- The same found in both, and what is left again no deeper in the first. -/
inductive Scan.NoDeeper : Scan → Scan → Prop
  | found {block : Block} {d e : Nat} {rest rest' : List SourceLine} :
    d ≤ e → CrossStitch.NoDeeper rest rest' →
      Scan.NoDeeper (.found block d rest) (.found block e rest')
  | exhausted : Scan.NoDeeper .exhausted .exhausted
  | broken {kind : ChartFault} {trace trace' : List String} :
    Scan.NoDeeper (.broken kind trace) (.broken kind trace')

theorem NoDeeper.scanBody {a b : List SourceLine} (h : NoDeeper a b) (mode : String) {d e : Nat}
    (hd : d ≤ e) (before before' : List SourceLine) :
    (scanBody mode d before a).NoDeeper (scanBody mode e before' b) := by
  obtain ⟨htake, hdrop⟩ := EntriesNoDeeper.cut h
  cases ha : (substance a).dropWhile staysOpen with
  | nil =>
    rw [ha] at hdrop
    have hb := List.forall₂_nil_left_iff.mp hdrop
    obtain ⟨trace, hsa⟩ := scanBody_of_substance_nil ha mode d before
    obtain ⟨trace', hsb⟩ := scanBody_of_substance_nil hb mode e before'
    rw [hsa, hsb]
    exact .broken
  | cons closing entries =>
    rw [ha] at hdrop
    obtain ⟨closing', entries', _, hentries, hb⟩ := List.forall₂_cons_left_iff.mp hdrop
    obtain ⟨trace, rest, rfl, hsa⟩ := scanBody_of_substance_cons ha mode d before
    obtain ⟨trace', rest', rfl, hsb⟩ := scanBody_of_substance_cons hb mode e before'
    rw [hsa, hsb, htake.texts_eq]
    split
    · exact .broken
    · exact .found hd hentries

/-- What is found does not depend on depths, and goes as deep. -/
theorem NoDeeper.scan {a b : List SourceLine} (h : NoDeeper a b) : (scan a).NoDeeper (scan b) := by
  cases ha : substance a with
  | nil =>
    rw [NoDeeper, ha] at h
    rw [scan_of_substance_nil ha, scan_of_substance_nil (List.forall₂_nil_left_iff.mp h)]
    exact .exhausted
  | cons entry entries =>
    rw [NoDeeper, ha] at h
    obtain ⟨entry', entries', ⟨hcontent, hdepth⟩, hentries, hb⟩ := List.forall₂_cons_left_iff.mp h
    obtain ⟨before, rest, rfl, hsa⟩ := scan_of_substance_cons ha
    obtain ⟨before', rest', rfl, hsb⟩ := scan_of_substance_cons hb
    rw [hsa, hsb, hcontent]
    cases opening entry'.1 with
    | below mode => exact NoDeeper.scanBody hentries mode hdepth before before'
    | whole block => exact .found hdepth hentries
    | broken kind => exact .broken

/-! ### Reading from less deep down -/

/-- The fault of an include beyond the limit. -/
def Includes.tooDeep (includes : Includes) : Fault :=
  .bare (.includeDepthExceeded includes.limit)

theorem noDeeper_map_depth {lines : List SourceLine} {d : Nat}
    (h : ∀ line ∈ lines, d ≤ line.depth) :
    NoDeeper (lines.map fun line => ⟨line.text, d⟩) lines := by
  induction lines with
  | nil => exact .nil
  | cons line lines ih =>
    obtain ⟨hline, hlines⟩ := List.forall_mem_cons.mp h
    have hcontent : SourceLine.content ⟨line.text, d⟩ = line.content := rfl
    have hidle : SourceLine.isIdle ⟨line.text, d⟩ = line.isIdle := rfl
    rw [NoDeeper, List.map_cons, substance_cons, substance_cons, hidle, hcontent]
    split
    · exact ih hlines
    · exact .cons ⟨rfl, hline⟩ (ih hlines)

/-- Files have the same text wherever they are included. -/
theorem Includes.load_eq_map (includes : Includes) (d e : Nat) (names : List String) :
    includes.load d names =
      (includes.load e names).map fun lines => lines.map fun line => ⟨line.text, d⟩ := by
  induction names with
  | nil => rfl
  | cons name names ih =>
    rw [load, load, ih]
    cases includes.files (includes.path name) with
    | error cause => rfl
    | ok text =>
      cases includes.load e names with
      | error fault => rfl
      | ok lines => simp [Except.map, sourceLines]

theorem Includes.expand_noDeeper {includes : Includes} {d e : Nat} (h : d ≤ e)
    {names : List String} {lines : List SourceLine} (he : includes.expand e names = .ok lines) :
    ∃ lines', includes.expand d names = .ok lines' ∧ NoDeeper lines' lines := by
  obtain ⟨hlimit, hload⟩ := expand_eq_ok he
  refine ⟨lines.map fun line => ⟨line.text, d + 1⟩, ?_, ?_⟩
  · rw [expand, if_pos (Nat.lt_of_le_of_lt h hlimit), load_eq_map includes (d + 1) (e + 1), hload]
    rfl
  · apply noDeeper_map_depth
    intro line hl
    rw [load_depth hload line hl]
    exact Nat.succ_le_succ h

/-- What cannot be followed from deep down can only be followed from less deep down if the
include limit was in the way. -/
theorem Includes.expand_error {includes : Includes} {d e : Nat} (h : d ≤ e)
    {names : List String} {fault : Fault} (he : includes.expand e names = .error fault) :
    fault.untraced = includes.tooDeep ∨ includes.expand d names = .error fault := by
  unfold expand at he ⊢
  split at he
  next hlimit =>
    right
    rw [if_pos (Nat.lt_of_le_of_lt h hlimit), load_eq_map includes (d + 1) (e + 1)]
    split at he
    next hload =>
      rw [hload]
      exact he
    next => cases he
  next =>
    cases he
    exact .inl rfl

/-- A reading that comes to the same as another, or goes on where the other is stopped by
the include limit. -/
def Includes.GoesAsFar (includes : Includes) (reading other : List Block × Option Fault) : Prop :=
  outcome reading = outcome other ∨
    (outcome other).2 = some includes.tooDeep ∧ other.1 <+: reading.1

theorem Includes.GoesAsFar.cons {includes : Includes} {reading other : List Block × Option Fault}
    (h : includes.GoesAsFar reading other) (block : Block) :
    includes.GoesAsFar (block :: reading.1, reading.2) (block :: other.1, other.2) := by
  rcases h with h | ⟨hdeep, hprefix⟩
  · obtain ⟨hblocks, hfault⟩ := Prod.mk.inj h
    exact .inl (by simp [outcome, hblocks, hfault])
  · exact .inr ⟨hdeep, (List.prefix_cons_inj block).mpr hprefix⟩

theorem readBlocks_noDeeper (includes : Includes) (b : List SourceLine) :
    ∀ a, NoDeeper a b → includes.GoesAsFar (readBlocks includes a) (readBlocks includes b) := by
  induction b using reading_induction includes with
  | step b found expanded =>
    intro a h
    have hscan := h.scan
    generalize hsa : scan a = sa at hscan
    generalize hsb : scan b = sb at hscan
    cases hscan with
    | exhausted => exact .inl (by rw [readBlocks_of_exhausted hsa, readBlocks_of_exhausted hsb])
    | broken => exact .inl (by rw [readBlocks_of_broken hsa, readBlocks_of_broken hsb]; rfl)
    | @found block d e rest rest' hd hrest =>
      by_cases hm : block.mode = includeMode
      · rw [readBlocks_of_include hsa hm, readBlocks_of_include hsb hm]
        cases he : includes.expand e block.lines with
        | error fault =>
          rcases Includes.expand_error hd he with hdeep | hsame
          · exact .inr ⟨congrArg some hdeep, List.nil_prefix⟩
          · exact .inl (by rw [hsame])
        | ok lines =>
          obtain ⟨lines', he', hlines⟩ := Includes.expand_noDeeper hd he
          rw [he']
          exact expanded block e rest' lines hsb hm he _ (hlines.append hrest)
      · rw [readBlocks_of_found hsa hm, readBlocks_of_found hsb hm]
        exact (found block e rest' hsb hm rest hrest).cons block

end CrossStitch
