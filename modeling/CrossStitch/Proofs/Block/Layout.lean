import CrossStitch.Proofs.Block.Likeness
import CrossStitch.Proofs.Outcome
import CrossStitch.Proofs.Text.Statement

/-! Reading and layout. What the reader makes of a source depends on what the source and the
files it includes state, not on how they are laid out. Two readers whose files state the same keep
step on buffers of the same substance: they find the same blocks at the same depths, splice in
lines of the same substance, and stop for the same reason. Only the lines that a fault is
traced to may differ. -/

namespace CrossStitch

/-! ### Substance and statements -/

theorem isIdle_eq_not_isStatement (line : SourceLine) :
    line.isIdle = !Text.isStatement line.content := by
  unfold SourceLine.isIdle Text.isStatement
  cases line.content with
  | nil => rfl
  | cons c rest => simp [bne]

/-- The substance of a text's lines is what the text states, with the depth it is read at. -/
theorem substance_sourceLines (depth : Nat) (text : String) :
    substance (sourceLines depth text) =
      (Text.statements text).map fun statement => (statement, depth) := by
  unfold substance sourceLines Text.statements
  induction Text.lines text with
  | nil => rfl
  | cons line lines ih =>
    have hcontent : SourceLine.content ⟨line, depth⟩ = Text.trim line.toList := rfl
    have hidle := isIdle_eq_not_isStatement ⟨line, depth⟩
    rw [hcontent] at hidle
    cases hs : Text.isStatement (Text.trim line.toList) <;>
      simp [hidle, hs, hcontent, ih]

theorem EntriesNoDeeper.antisymm {a b : List (List Char × Nat)} (h : EntriesNoDeeper a b)
    (h' : EntriesNoDeeper b a) : a = b := by
  induction h with
  | nil => rfl
  | cons hxy _ ih =>
    obtain ⟨hyx, hrest⟩ := List.forall₂_cons.mp h'
    rw [Prod.ext hxy.1 (Nat.le_antisymm hxy.2 hyx.2), ih hrest]

/-- The same found in both, and lines of the same substance left. -/
inductive Scan.Alike : Scan → Scan → Prop
  | found {block : Block} {depth : Nat} {rest rest' : List SourceLine} :
    substance rest = substance rest' →
      Scan.Alike (.found block depth rest) (.found block depth rest')
  | exhausted : Scan.Alike .exhausted .exhausted
  | broken {kind : ChartFault} {trace trace' : List String} :
    Scan.Alike (.broken kind trace) (.broken kind trace')

theorem Scan.NoDeeper.antisymm {s t : Scan} (h : s.NoDeeper t) (h' : t.NoDeeper s) :
    s.Alike t := by
  cases h with
  | found hd hrest =>
    cases h' with
    | found hd' hrest' =>
      obtain rfl := Nat.le_antisymm hd hd'
      exact .found (EntriesNoDeeper.antisymm hrest hrest')
  | exhausted => exact .exhausted
  | broken => exact .broken

theorem scan_alike {a b : List SourceLine} (h : substance a = substance b) :
    (scan a).Alike (scan b) :=
  (noDeeper_of_substance_eq h).scan.antisymm (noDeeper_of_substance_eq h.symm).scan

/-! ### Files that state the same -/

/-- Files are sought in the same places and followed equally deep. Those that can be read with
both state the same, and the others cannot be read for the same reason. -/
structure Includes.StateSame (a b : Includes) : Prop where
  root : a.root = b.root
  limit : a.limit = b.limit
  files : ∀ path, (a.files path).map Text.statements = (b.files path).map Text.statements

namespace Includes.StateSame

variable {a b : Includes}

theorem refl (a : Includes) : a.StateSame a :=
  ⟨rfl, rfl, fun _ => rfl⟩

theorem path (h : a.StateSame b) (name : String) : a.path name = b.path name := by
  rw [Includes.path, Includes.path, h.root]

theorem load (h : a.StateSame b) (depth : Nat) (names : List String) :
    (a.load depth names).map substance = (b.load depth names).map substance := by
  induction names with
  | nil => rfl
  | cons name names ih =>
    rw [Includes.load, Includes.load, h.path]
    rcases map_eq_map_iff.mp (h.files (b.path name)) with
      ⟨cause, ha, hb⟩ | ⟨text, text', ha, hb, hstatements⟩
    · rw [ha, hb]
    rw [ha, hb]
    rcases map_eq_map_iff.mp ih with ⟨fault, hla, hlb⟩ | ⟨lines, lines', hla, hlb, hlines⟩
    · rw [hla, hlb]
    · rw [hla, hlb]
      refine map_eq_map_iff.mpr (.inr ⟨_, _, rfl, rfl, ?_⟩)
      rw [substance_append, substance_append, substance_sourceLines, substance_sourceLines, hstatements,
        hlines]

theorem expand (h : a.StateSame b) (depth : Nat) (names : List String) :
    (a.expand depth names).map substance = (b.expand depth names).map substance := by
  rw [Includes.expand, Includes.expand, h.limit]
  rcases map_eq_map_iff.mp (h.load (depth + 1) names) with
    ⟨fault, ha, hb⟩ | ⟨lines, lines', ha, hb, hlines⟩
  · rw [ha, hb]
  · rw [ha, hb]
    split
    · exact map_eq_map_iff.mpr (.inr ⟨_, _, rfl, rfl, hlines⟩)
    · rfl

end Includes.StateSame

/-- What is read depends on what lines and files state. -/
theorem outcome_readBlocks_of_stateSame {a b : Includes} (h : a.StateSame b)
    (lines : List SourceLine) :
    ∀ other, substance lines = substance other →
      outcome (readBlocks a lines) = outcome (readBlocks b other) := by
  induction lines using reading_induction a with
  | step lines found expanded =>
    intro other hother
    have hscan := scan_alike hother
    generalize hsa : scan lines = sa at hscan
    generalize hsb : scan other = sb at hscan
    cases hscan with
    | exhausted => rw [readBlocks_of_exhausted hsa, readBlocks_of_exhausted hsb]
    | broken =>
      rw [readBlocks_of_broken hsa, readBlocks_of_broken hsb]
      rfl
    | @found block depth rest rest' hrest =>
      by_cases hm : block.mode = includeMode
      · rw [readBlocks_of_include hsa hm, readBlocks_of_include hsb hm]
        rcases map_eq_map_iff.mp (h.expand depth block.lines) with
          ⟨fault, ha, hb⟩ | ⟨inserted, inserted', ha, hb, hinserted⟩
        · rw [ha, hb]
        · rw [ha, hb]
          refine expanded block depth rest inserted hsa hm ha _ ?_
          rw [substance_append, substance_append, hinserted, hrest]
      · obtain ⟨hblocks, hfault⟩ := Prod.mk.inj (found block depth rest hsa hm rest' hrest)
        rw [readBlocks_of_found hsa hm, readBlocks_of_found hsb hm]
        exact Prod.ext (congrArg (block :: ·) hblocks) hfault

end CrossStitch
