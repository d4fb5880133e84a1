import CrossStitch.Proofs.Action.Source
import CrossStitch.Proofs.Block.Layout

/-! Charts and layout. Indentation, blanks at the ends of lines, carriage returns, blank lines
and comments never change a chart, neither in its source nor in the files it includes, and
wherever they stand: outside the blocks, in their bodies, or between an opening line and its
closing line. What they can change are the lines that a fault is traced to. -/

namespace CrossStitch

/-- The same result, or faults of the same kind, which differ at most in the lines that they
are traced to. -/
inductive Alike {α : Type} : Except Fault α → Except Fault α → Prop
  | ok (result : α) : Alike (.ok result) (.ok result)
  | error {fault other : Fault} : fault.untraced = other.untraced →
      Alike (.error fault) (.error other)

namespace Alike

variable {α β : Type}

theorem refl (x : Except Fault α) : Alike x x := by
  cases x with
  | error fault => exact .error rfl
  | ok result => exact .ok result

theorem eq_ok {x : Except Fault α} {result : α} (h : Alike x (.ok result)) : x = .ok result := by
  cases h
  rfl

/-- Steps that follow on the same result come to the same. -/
theorem bind {x y : Except Fault α} (h : Alike x y) (next : α → Except Fault β) :
    Alike (x >>= next) (y >>= next) := by
  cases h with
  | ok result => exact refl (next result)
  | error hfault => exact .error hfault

end Alike

theorem alike_readAll {a b : Includes} {lines other : List SourceLine}
    (h : outcome (readBlocks a lines) = outcome (readBlocks b other)) :
    Alike (readAll a lines) (readAll b other) := by
  unfold readAll
  rcases ha : readBlocks a lines with ⟨blocks, _ | fault⟩ <;>
    rcases hb : readBlocks b other with ⟨blocks', _ | fault'⟩ <;>
      simp only [ha, hb, outcome, Prod.mk.injEq, Option.map_none, Option.map_some, reduceCtorEq,
        and_false, Option.some.injEq] at h
  · obtain ⟨rfl, _⟩ := h
    exact .ok blocks
  · exact .error h.2

/-- Sources that state the same are read alike with files that state the same. -/
theorem alike_readAll_of_statements_eq {a b : Includes} (h : a.StateSame b) {s t : String}
    (hst : Text.statements s = Text.statements t) :
    Alike (readAll a (sourceLines 0 s)) (readAll b (sourceLines 0 t)) := by
  apply alike_readAll
  apply outcome_readBlocks_of_stateSame h
  rw [substance_sourceLines, substance_sourceLines, hst]

theorem alike_parsePattern_of_statements_eq {a b : Includes} (h : a.StateSame b) {s t : String}
    (hst : Text.statements s = Text.statements t) (colours : ColourTable) :
    Alike (parsePattern ⟨colours, a⟩ s) (parsePattern ⟨colours, b⟩ t) := by
  rw [parsePattern_eq_bind, parsePattern_eq_bind, parseActions_eq_bind, parseActions_eq_bind]
  exact ((alike_readAll_of_statements_eq h hst).bind _).bind _

/-- Layout does not matter. Two sources that state the same, with files that state the same, have
the same blocks, or reading them fails for the same reason, and so they describe the same
pattern or fail alike. In particular a chart describes what it describes in any other layout. -/
theorem layout_changes_no_chart {a b : Includes} (h : a.StateSame b) :
    (∀ s t, Text.statements s = Text.statements t →
      Alike (readAll a (sourceLines 0 s)) (readAll b (sourceLines 0 t)) ∧
      ∀ colours, Alike (parsePattern ⟨colours, a⟩ s) (parsePattern ⟨colours, b⟩ t)) ∧
    ∀ (laid : List Text.LaidLine) (colours : ColourTable),
      Alike (readAll a (sourceLines 0 (Text.laidText laid)))
        (readAll b (sourceLines 0 (Text.plainText laid))) ∧
      Alike (parsePattern ⟨colours, a⟩ (Text.laidText laid))
        (parsePattern ⟨colours, b⟩ (Text.plainText laid)) := by
  constructor
  · intro s t hst
    exact ⟨alike_readAll_of_statements_eq h hst, alike_parsePattern_of_statements_eq h hst⟩
  · intro laid colours
    have hlaid := Text.statements_laidText laid
    exact ⟨alike_readAll_of_statements_eq h hlaid,
      alike_parsePattern_of_statements_eq h hlaid colours⟩

/-- A file with one text. -/
def partIncludes (text : String) : Includes where
  files path := if path = "part" then .ok text else .error .notFound
  root := none
  limit := 1

/-- Carriage returns, a comment in a body, a blank line, and a file that leaves its last line
unended. -/
theorem layout_of_included_part :
    (partIncludes "mode => \x7b\r\n\t# of all\r\n  xstitch\r\n\x7d").StateSame
      (partIncludes "mode => \x7b\nxstitch\n\x7d\n") ∧
    Text.statements "\n  include => \x7b\n part \n\x7d\r\n  #" =
      Text.statements "include => \x7b\npart\n\x7d\n" ∧
    readAll (partIncludes "mode => \x7b\nxstitch\n\x7d\n")
        (sourceLines 0 "include => \x7b\npart\n\x7d\n") = .ok [⟨"mode", ["xstitch"]⟩] ∧
    readAll (partIncludes "mode => \x7b\r\n\t# of all\r\n  xstitch\r\n\x7d")
        (sourceLines 0 "\n  include => \x7b\n part \n\x7d\r\n  #") =
      .ok [⟨"mode", ["xstitch"]⟩] := by
  have hfiles : (partIncludes "mode => \x7b\r\n\t# of all\r\n  xstitch\r\n\x7d").StateSame
      (partIncludes "mode => \x7b\nxstitch\n\x7d\n") := by
    refine ⟨rfl, rfl, fun path => ?_⟩
    dsimp only [partIncludes]
    split
    · exact congrArg Except.ok (by decide)
    · rfl
  have hsource : Text.statements "\n  include => \x7b\n part \n\x7d\r\n  #" =
      Text.statements "include => \x7b\npart\n\x7d\n" := by decide
  have hplain : readAll (partIncludes "mode => \x7b\nxstitch\n\x7d\n")
      (sourceLines 0 "include => \x7b\npart\n\x7d\n") = .ok [⟨"mode", ["xstitch"]⟩] := by
    have hinclude : scan (sourceLines 0 "include => \x7b\npart\n\x7d\n") =
        .found ⟨"include", ["part"]⟩ 0 [] := by decide
    have hpart : (partIncludes "mode => \x7b\nxstitch\n\x7d\n").expand 0 ["part"] =
        .ok (linesAt 1 ["mode => \x7b", "xstitch", "\x7d"]) := by cbv
    have hmode : scan (linesAt 1 ["mode => \x7b", "xstitch", "\x7d"] ++ []) =
        .found ⟨"mode", ["xstitch"]⟩ 1 [] := by decide
    rw [readAll_eq_ok_iff, readBlocks_of_include hinclude rfl, hpart]
    simp only [readBlocks_of_found hmode (by decide), readBlocks_of_exhausted scan_nil]
  have halike := ((layout_changes_no_chart hfiles).1 _ _ hsource).1
  rw [hplain] at halike
  exact ⟨hfiles, hsource, hplain, halike.eq_ok⟩

end CrossStitch
