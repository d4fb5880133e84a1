import CrossStitch.Proofs.Text.Line
import CrossStitch.Proofs.Text.Trim
import Mathlib.Data.List.TakeWhile

/-! What a source states. Of a text the reader takes in the trimmed lines, and of these
neither the blank ones nor the comments. A text states the same however it is laid out: with
blank lines and comments put in anywhere, with blanks put around its lines, and with lines
that end in a carriage return or without one. -/

namespace CrossStitch.Text

/-- A trimmed line states something unless it is blank or a comment. -/
def isStatement : List Char → Bool
  | [] => false
  | c :: _ => c != '#'

/-- The trimmed lines of a text, without blank lines and comments. -/
def statements (text : String) : List (List Char) :=
  ((lines text).map fun line => trim line.toList).filter isStatement

/-! ### Blanks around a line -/

theorem trimLeft_append {left : List Char} (h : ∀ c ∈ left, isBlank c = true)
    (text : List Char) : trimLeft (left ++ text) = trimLeft text :=
  List.dropWhile_append_of_pos h

theorem trimRight_append {right : List Char} (h : ∀ c ∈ right, isBlank c = true)
    (text : List Char) : trimRight (text ++ right) = trimRight text := by
  rw [trimRight, trimRight, List.reverse_append,
    List.dropWhile_append_of_pos fun c hc => h c (List.mem_reverse.mp hc)]

/-- Blanks around a text are trimmed off with those it has. -/
theorem trim_append {left right : List Char} (hl : ∀ c ∈ left, isBlank c = true)
    (hr : ∀ c ∈ right, isBlank c = true) (text : List Char) :
    trim (left ++ text ++ right) = trim text := by
  rw [trim, trim, List.append_assoc, trimLeft_append hl, trimLeft, trimLeft, List.dropWhile_append]
  cases hd : text.dropWhile isBlank with
  | nil => simp [List.dropWhile_eq_nil_iff.mpr hr]
  | cons c rest => simpa using trimRight_append hr (c :: rest)

/-! ### Lines of a written text -/

/-- The carriage return that a line's end takes with it is a blank. -/
theorem trim_endedLine (line : List Char) : trim (endedLine line.reverse) = trim line := by
  unfold endedLine
  split
  next rest h =>
    have hline : line = rest.reverse ++ ['\r'] := by
      rw [← List.reverse_reverse line, h, List.reverse_cons]
    have hreturn : ∀ c ∈ ['\r'], isBlank c = true := List.forall_mem_singleton.mpr (by decide)
    simpa [hline] using (@trim_append [] ['\r'] nofun hreturn rest.reverse).symm
  · rw [List.reverse_reverse]

theorem map_trim_linesFrom {ls : List String} (h : ∀ line ∈ ls, '\n' ∉ line.toList) :
    (linesFrom [] (unlines ls).toList).map trim = ls.map fun line => trim line.toList := by
  rw [toList_unlines]
  induction ls with
  | nil => rfl
  | cons line ls ih =>
    obtain ⟨hline, hls⟩ := List.forall_mem_cons.mp h
    rw [List.flatMap_cons, List.append_assoc, List.singleton_append, linesFrom_append [] hline,
      List.append_nil, List.map_cons, List.map_cons, trim_endedLine, ih hls]

/-- Written lines state what each of them states. -/
theorem statements_unlines {ls : List String} (h : ∀ line ∈ ls, '\n' ∉ line.toList) :
    statements (unlines ls) = (ls.map fun line => trim line.toList).filter isStatement := by
  rw [← map_trim_linesFrom h]
  simp [statements, lines, Function.comp_def]

/-! ### Layouts -/

/-- A line of a source that was laid out anew. -/
inductive LaidLine
  /-- A blank line or a comment that was put in. -/
  | added (text : String) (one_line : '\n' ∉ text.toList)
      (idle : isStatement (trim text.toList) = false)
  /-- A line that was there, with blanks put around it. A carriage return before the line's
  end is such a blank. -/
  | kept (left : List Char) (line : String) (right : List Char)
      (one_line : '\n' ∉ left ++ line.toList ++ right)
      (blank : ∀ c ∈ left ++ right, isBlank c = true)

namespace LaidLine

/-- The line as it stands in the new layout. -/
def text : LaidLine → String
  | added text _ _ => text
  | kept left line right _ _ => String.ofList (left ++ line.toList ++ right)

/-- The line as it stood before. -/
def original? : LaidLine → Option String
  | added _ _ _ => none
  | kept _ line _ _ _ => some line

theorem not_mem_text (laid : LaidLine) : '\n' ∉ laid.text.toList := by
  cases laid with
  | added text one_line idle => exact one_line
  | kept left line right one_line blank => simpa [text] using one_line

theorem not_mem_original {laid : LaidLine} {line : String} (h : laid.original? = some line) :
    '\n' ∉ line.toList := by
  cases laid with
  | added text one_line idle => cases h
  | kept left line right one_line blank =>
    cases h
    exact fun hmem => one_line (by simp [hmem])

end LaidLine

/-- The text in its new layout. -/
def laidText (laid : List LaidLine) : String :=
  unlines (laid.map LaidLine.text)

/-- The text before it was laid out. -/
def plainText (laid : List LaidLine) : String :=
  unlines (laid.filterMap LaidLine.original?)

/-- A layout changes nothing in what a text states. -/
theorem statements_laidText (laid : List LaidLine) :
    statements (laidText laid) = statements (plainText laid) := by
  rw [laidText, plainText, statements_unlines, statements_unlines]
  · induction laid with
    | nil => rfl
    | cons first laid ih =>
      cases first with
      | added text one_line idle =>
        simp only [List.map_cons, LaidLine.text, LaidLine.original?, List.filterMap_cons,
          List.filter_cons, idle, ih]
        rfl
      | kept left line right one_line blank =>
        obtain ⟨hl, hr⟩ := List.forall_mem_append.mp blank
        have htrim := trim_append hl hr line.toList
        simp only [List.map_cons, LaidLine.text, LaidLine.original?, List.filterMap_cons,
          String.toList_ofList, htrim, List.filter_cons, ih]
  · intro line hl
    obtain ⟨first, _, hline⟩ := List.mem_filterMap.mp hl
    exact LaidLine.not_mem_original hline
  · intro line hl
    obtain ⟨first, _, rfl⟩ := List.mem_map.mp hl
    exact first.not_mem_text

end CrossStitch.Text
