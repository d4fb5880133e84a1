import CrossStitch.Proofs.Render.Drawing
import CrossStitch.Proofs.Text.Signed
import CrossStitch.Render.Html
import Mathlib.Data.List.GetD
import Mathlib.Data.List.Basic

/-! One position in a text chart and on a page. The chart has a single character for it, for its
colour or else for its lines. The page has the colour in the style of a cell and the lines as
the cell's markup. What is drawn there can be told from either: two colours have different
symbols unless both come after the alphabet is used up, and the markup of other lines has
another ending. -/

namespace CrossStitch

/-! ### Lines -/

/-- The lines that can be drawn in a cell. -/
inductive LineKind
  | horizontal
  | vertical
  | both
  | backslash
  | slash
  deriving DecidableEq, Repr

namespace LineKind

/-- What is drawn for the lines in a text chart. -/
def char : LineKind → Char
  | .horizontal => '-'
  | .vertical => '|'
  | .both => '+'
  | .backslash => '\\'
  | .slash => '/'

/-- The text is markup for the lines, whatever their colours. -/
def IsMarkup : LineKind → String → Prop
  | .horizontal, text => ∃ colour, text = Html.colouredLine "---" colour
  | .vertical, text => ∃ colour, text = Html.colouredLine "|" colour
  | .both, text => ∃ h v,
      text = Html.colouredLine "-" h ++ Html.colouredLine "|" v ++ Html.colouredLine "-" h
  | .backslash, text => ∃ colour, text = Html.colouredLine "\\" colour
  | .slash, text => ∃ colour, text = Html.colouredLine "/" colour

/-- The end of the markup, from where no colour is mentioned any more. -/
def ending : LineKind → String
  | .horizontal => "\">---</div>"
  | .vertical => "\">|</div>"
  | .both => "\">-</div>"
  | .backslash => "\">\\</div>"
  | .slash => "\">/</div>"

end LineKind

/-- The lines at a position, of which those that are not diagonal come first. -/
def Stitches.lineKind? (stitches : Stitches) : Option LineKind :=
  match stitches.horizontal, stitches.vertical with
  | some _, some _ => some .both
  | some _, none => some .horizontal
  | none, some _ => some .vertical
  | none, none =>
    match stitches.backslash, stitches.slash with
    | some _, _ => some .backslash
    | none, some _ => some .slash
    | none, none => none

namespace LineKind

theorem char_inj {kind kind' : LineKind} (h : kind.char = kind'.char) : kind = kind' := by
  cases kind <;> cases kind' <;> first | rfl | exact absurd h (by decide)

theorem eq_of_ending_suffix {kind kind' : LineKind}
    (h : kind.ending.toList <:+ kind'.ending.toList) : kind = kind' := by
  revert h
  cases kind <;> cases kind' <;> decide +kernel

theorem IsMarkup.ending_suffix {kind : LineKind} {text : String} (h : kind.IsMarkup text) :
    kind.ending.toList <:+ text.toList := by
  have hline (line colour : String) :
      ("\">" ++ line ++ "</div>").toList <:+ (Html.colouredLine line colour).toList := by
    refine ⟨("<div style=\"color: " ++ colour).toList, ?_⟩
    unfold Html.colouredLine
    simp only [String.toList_append, List.append_assoc]
  cases kind with
  | horizontal =>
    obtain ⟨colour, rfl⟩ := h
    exact hline "---" colour
  | vertical =>
    obtain ⟨colour, rfl⟩ := h
    exact hline "|" colour
  | both =>
    obtain ⟨h, v, rfl⟩ := h
    rw [String.toList_append]
    exact (hline "-" h).trans (List.suffix_append _ _)
  | backslash =>
    obtain ⟨colour, rfl⟩ := h
    exact hline "\\" colour
  | slash =>
    obtain ⟨colour, rfl⟩ := h
    exact hline "/" colour

/-- A text is markup for lines of one kind at most. -/
theorem IsMarkup.unique {kind kind' : LineKind} {text : String} (h : kind.IsMarkup text)
    (h' : kind'.IsMarkup text) : kind = kind' := by
  rcases List.suffix_or_suffix_of_suffix h.ending_suffix h'.ending_suffix with hs | hs
  · exact eq_of_ending_suffix hs
  · exact (eq_of_ending_suffix hs).symm

theorem IsMarkup.mem {kind : LineKind} {text : String} (h : kind.IsMarkup text) :
    '<' ∈ text.toList := by
  apply h.ending_suffix.subset
  cases kind <;> decide

end LineKind

theorem Ascii.lineGlyph_eq {stitches : Stitches} (h : stitches.conflicts = false) :
    lineGlyph stitches = (stitches.lineKind?.map LineKind.char).getD ' ' := by
  obtain ⟨_, _, _, _, _, horizontal, vertical, backslash, slash⟩ := stitches
  cases horizontal <;> cases vertical <;> cases backslash <;> cases slash <;>
    first | rfl | cases h

namespace Html

variable {stitches : Stitches}

theorem isMarkup_of_lineMarkup? {text : String} (h : lineMarkup? stitches = some text) :
    ∃ kind, stitches.lineKind? = some kind ∧ kind.IsMarkup text := by
  obtain ⟨_, _, _, _, _, horizontal, vertical, backslash, slash⟩ := stitches
  cases horizontal <;> cases vertical <;> cases backslash <;> cases slash <;> cases h <;>
    first | exact ⟨_, rfl, _, rfl⟩ | exact ⟨_, rfl, _, _, rfl⟩

theorem lineKind?_of_lineMarkup?_eq_none (h : lineMarkup? stitches = none) :
    stitches.lineKind? = none := by
  obtain ⟨_, _, _, _, _, horizontal, vertical, backslash, slash⟩ := stitches
  cases horizontal <;> cases vertical <;> cases backslash <;> cases slash <;>
    first | rfl | cases h

/-- In a cell with a label that is no markup, the markup tells the lines. -/
theorem isMarkup_iff {label : String} (hlabel : '<' ∉ label.toList) (kind : LineKind) :
    kind.IsMarkup ((lineMarkup? stitches).getD label) ↔ stitches.lineKind? = some kind := by
  cases h : lineMarkup? stitches with
  | none =>
    rw [lineKind?_of_lineMarkup?_eq_none h]
    simp only [Option.getD_none, reduceCtorEq, iff_false]
    exact fun hm => hlabel hm.mem
  | some text =>
    obtain ⟨drawn, hdrawn, hm⟩ := isMarkup_of_lineMarkup? h
    rw [Option.getD_some, hdrawn, Option.some.injEq]
    constructor
    · exact fun hk => hm.unique hk
    · rintro rfl
      exact hm

theorem not_mem_marginLabel (column row : Nat) : '<' ∉ (marginLabel column row).toList := by
  have hdigits (n : Nat) : '<' ∉ (toString n).toList := by
    rw [Nat.toString_eq_repr, Nat.toList_repr]
    intro hc
    exact absurd (Text.isDigit_of_mem_toDigits hc) (by decide)
  unfold marginLabel
  split
  · simp
  · exact hdigits _
  · exact hdigits _
  · simp

end Html

/-! ### Colours -/

namespace Ascii

/-- The colour comes after as many others as there are symbols. -/
def Overflows (colours : List String) (colour : String) : Prop :=
  alphabet.length ≤ colours.idxOf colour

variable {colours : List String}

theorem symbolOf_of_overflows {colour : String} (h : Overflows colours colour) :
    symbolOf colours colour = overflowSymbol :=
  List.getD_eq_default _ _ h

theorem getElem?_alphabet {colour : String} (h : ¬ Overflows colours colour) :
    alphabet[colours.idxOf colour]? = some (symbolOf colours colour) := by
  have hlt : colours.idxOf colour < alphabet.length := Nat.lt_of_not_le h
  rw [symbolOf, List.getD_eq_getElem _ _ hlt, List.getElem?_eq_getElem hlt]

theorem overflows_of_symbolOf {colour : String} (h : symbolOf colours colour = overflowSymbol) :
    Overflows colours colour := by
  by_contra hfits
  have hmem : overflowSymbol ∈ alphabet := h ▸ List.mem_of_getElem? (getElem?_alphabet hfits)
  exact absurd hmem (by decide)

/-- Two colours have the same symbol only if there is a symbol left for neither. -/
theorem symbolOf_eq_iff {colour other : String} (hc : other ∈ colours) :
    symbolOf colours other = symbolOf colours colour ↔
      other = colour ∨ Overflows colours other ∧ Overflows colours colour := by
  constructor
  · intro h
    by_cases hover : Overflows colours other
    · have hsymbol := symbolOf_of_overflows hover
      exact .inr ⟨hover, overflows_of_symbolOf (h ▸ hsymbol)⟩
    · have hfits : ¬ Overflows colours colour := fun hc =>
        hover (overflows_of_symbolOf (h.trans (symbolOf_of_overflows hc)))
      have hnodup : alphabet.Nodup := by decide
      have hplace : colours.idxOf other = colours.idxOf colour := by
        apply (List.getElem?_inj (Nat.lt_of_not_le hover) hnodup).mp
        rw [getElem?_alphabet hover, getElem?_alphabet hfits, h]
      exact .inl ((List.idxOf_inj hc).mp hplace)
  · rintro (rfl | ⟨ho, hc⟩)
    · rfl
    · rw [symbolOf_of_overflows ho, symbolOf_of_overflows hc]

theorem symbolOf_ne_char (colour : String) (kind : LineKind) :
    symbolOf colours colour ≠ kind.char := by
  have hall : (overflowSymbol :: alphabet).all fun c => decide (c ≠ kind.char) := by
    cases kind <;> decide
  exact of_decide_eq_true (List.all_eq_true.mp hall _ (symbolOf_mem colours colour))

theorem symbolOf_ne_space (colour : String) : symbolOf colours colour ≠ ' ' := fun h =>
  not_isInk_space (h ▸ isInk_symbolOf colours colour)

theorem mem_crossColours_iff {grid : Grid} {colour : String} :
    colour ∈ crossColours grid ↔ ∃ x y, (grid.look x y).cross = some colour := by
  simp only [crossColours, Grid.collect, List.mem_eraseDups, List.mem_flatMap, List.mem_filterMap,
    List.mem_range]
  constructor
  · rintro ⟨y, _, x, _, h⟩
    exact ⟨x, y, h⟩
  · rintro ⟨x, y, h⟩
    by_cases hin : x < grid.extent ∧ y < grid.extent
    · exact ⟨y, hin.2, x, hin.1, h⟩
    · rw [Grid.look_eq_blank hin] at h
      cases h

theorem nodup_eraseDups {α : Type} [BEq α] [LawfulBEq α] : (l : List α) → l.eraseDups.Nodup
  | [] => by simp
  | a :: l => by
    rw [List.eraseDups_cons, List.nodup_cons]
    exact ⟨by simp, nodup_eraseDups _⟩
termination_by l => l.length
decreasing_by exact Nat.lt_succ_of_le (List.length_filter_le _ _)

/-- With two colours more than there are symbols, two are without one. -/
theorem exists_overflows (hcolours : colours.Nodup) (h : alphabet.length + 1 < colours.length) :
    ∃ colour ∈ colours, ∃ other ∈ colours, colour ≠ other ∧ Overflows colours colour ∧
      Overflows colours other := by
  have hlast : alphabet.length < colours.length := by omega
  refine ⟨colours[alphabet.length], List.getElem_mem _, colours[alphabet.length + 1],
    List.getElem_mem _, ?_, ?_, ?_⟩
  · rw [Ne, hcolours.getElem_inj_iff]
    omega
  · rw [Overflows, hcolours.idxOf_getElem]
  · rw [Overflows, hcolours.idxOf_getElem]
    omega

end Ascii

namespace Html

/-- The part of a style that colours a cell. -/
def background (colour : String) : String :=
  "background-color: " ++ colour

theorem background_inj {colour other : String} :
    background colour = background other ↔ colour = other :=
  String.append_right_inj _

theorem take_background (colour : String) : (background colour).toList.take 2 = ['b', 'a'] := by
  have hstart : "background-color: ".toList = ['b', 'a'] ++ "ckground-color: ".toList := by
    decide +kernel
  unfold background
  rw [String.toList_append, hstart]
  rfl

theorem background_not_mem_edgeStyle (colour side : String) (edge : Option String) :
    background colour ∉ edgeStyle side edge := by
  cases edge with
  | none => exact List.not_mem_nil
  | some other =>
    intro h
    have hpart := congrArg (fun part => part.toList.take 2) (List.mem_singleton.mp h)
    have hstart : "border-".toList = ['b', 'o'] ++ "rder-".toList := by decide +kernel
    simp only [take_background, String.toList_append, hstart] at hpart
    cases hpart

/-- A style has a part for a background just if there is a cross stitch of its colour. -/
theorem background_mem_styleParts_iff {stitches : Stitches} {colour : String} :
    background colour ∈ styleParts stitches ↔ stitches.cross = some colour := by
  have hsize : background colour ∉
      if stitches.hasStraightLine || stitches.hasDiagonal then ["font-size: 6pt"] else [] := by
    intro h
    split at h
    · have hpart := congrArg (fun part => part.toList.take 2) (List.mem_singleton.mp h)
      rw [take_background] at hpart
      exact absurd hpart (by decide +kernel)
    · cases h
  simp only [styleParts, List.mem_append, hsize, background_not_mem_edgeStyle, false_or,
    List.mem_map, Option.mem_toList]
  constructor
  · rintro ⟨other, hcross, hpart⟩
    have hsame := background_inj.mp hpart
    rw [hcross, hsame]
  · intro hcross
    exact ⟨colour, hcross, rfl⟩

theorem forall_background_not_mem_iff {stitches : Stitches} :
    (∀ colour, background colour ∉ styleParts stitches) ↔ stitches.cross = none := by
  simp only [background_mem_styleParts_iff]
  exact Option.eq_none_iff_forall_ne_some.symm

end Html

/-! ### Both -/

namespace Ascii

variable {colours : List String} {stitches : Stitches}

theorem glyph_of_cross {colour : String} (h : stitches.cross = some colour) :
    glyph colours stitches = symbolOf colours colour := by
  rw [glyph, h]

theorem glyph_of_bare (h : stitches.cross = none) (hfree : stitches.conflicts = false) :
    glyph colours stitches = (stitches.lineKind?.map LineKind.char).getD ' ' := by
  rw [glyph, h]
  exact lineGlyph_eq hfree

theorem glyph_eq_symbolOf_iff (hfree : stitches.conflicts = false)
    (hcross : ∀ colour, stitches.cross = some colour → colour ∈ colours) (colour : String) :
    glyph colours stitches = symbolOf colours colour ↔ ∃ other, stitches.cross = some other ∧
      (other = colour ∨ Overflows colours other ∧ Overflows colours colour) := by
  cases h : stitches.cross with
  | none =>
    simp only [reduceCtorEq, false_and, exists_false, iff_false]
    rw [glyph_of_bare h hfree]
    cases stitches.lineKind? with
    | none => exact (symbolOf_ne_space colour).symm
    | some kind => exact (symbolOf_ne_char colour kind).symm
  | some other =>
    rw [glyph_of_cross h, symbolOf_eq_iff (hcross other h)]
    simp

theorem glyph_eq_char_iff (hfree : stitches.conflicts = false) (kind : LineKind) :
    glyph colours stitches = kind.char ↔
      stitches.lineKind? = some kind ∧ stitches.cross = none := by
  cases h : stitches.cross with
  | none =>
    rw [glyph_of_bare h hfree]
    cases stitches.lineKind? with
    | none => cases kind <;> simp [LineKind.char]
    | some drawn =>
      simp only [Option.map_some, Option.getD_some, Option.some.injEq, and_true]
      exact ⟨LineKind.char_inj, congrArg LineKind.char⟩
  | some colour =>
    rw [glyph_of_cross h]
    simp [symbolOf_ne_char]

theorem glyph_eq_space_iff (hfree : stitches.conflicts = false) :
    glyph colours stitches = ' ' ↔ stitches.lineKind? = none ∧ stitches.cross = none := by
  cases h : stitches.cross with
  | none =>
    rw [glyph_of_bare h hfree]
    cases stitches.lineKind? with
    | none => simp
    | some kind => cases kind <;> simp [LineKind.char]
  | some colour =>
    rw [glyph_of_cross h]
    simp [symbolOf_ne_space]

end Ascii

end CrossStitch
