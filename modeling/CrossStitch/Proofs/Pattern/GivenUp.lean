import CrossStitch.Proofs.Pattern.Size
import Mathlib.Data.List.TakeWhile

/-! Drawings that are given up. An action is painted up to the first symbol that its palette does
not have, and what is painted by then stays. So the builder is left as by an action that ends
before that symbol, but for its reach, which takes in the symbol's place. Painting never asks for
the reach. What comes later is therefore painted over the part that stayed, as if nothing had
failed, and only the size of the pattern may be larger. So no other patterns come of it than those
of actions that are all accepted. -/

namespace CrossStitch

/-! ### The part that is painted -/

/-- The rows of a drawing up to the first character that the palette does not have. -/
def Palette.knownRows (palette : Palette) : List String → List String
  | [] => []
  | row :: rows =>
    if row.toList.all fun c => palette.contains c then row :: knownRows palette rows
    else [String.ofList (row.toList.takeWhile fun c => palette.contains c)]

/-- The action with its drawing up to the first symbol that its palette does not have. -/
def Action.knownPart (action : Action) : Action :=
  { action with rows := action.palette.knownRows action.rows }

/-- The symbols of one row. -/
def rowSymbols (line : String) (row : Nat) : List Symbol :=
  line.toList.zipIdx.map fun (char, column) => ⟨column, row, char⟩

/-- The symbols of rows that are numbered from a given one on. -/
def symbolsFrom (rows : List String) (first : Nat) : List Symbol :=
  (rows.zipIdx first).flatMap fun (line, row) => rowSymbols line row

theorem symbolsFrom_cons (line : String) (rows : List String) (first : Nat) :
    symbolsFrom (line :: rows) first = rowSymbols line first ++ symbolsFrom rows (first + 1) := by
  rw [symbolsFrom, List.zipIdx_cons, List.flatMap_cons]
  rfl

theorem all_rowSymbols (p : Char → Bool) (line : String) (row : Nat) :
    (rowSymbols line row).all (fun symbol => p symbol.char) = line.toList.all p := by
  have hfst : line.toList = line.toList.zipIdx.map Prod.fst := (List.zipIdx_map_fst 0 _).symm
  rw [rowSymbols, List.all_map]
  conv_rhs => rw [hfst, List.all_map]
  rfl

theorem takeWhile_zipIdx (p : Char → Bool) (l : List Char) (n : Nat) :
    (l.zipIdx n).takeWhile (fun c => p c.1) = (l.takeWhile p).zipIdx n := by
  induction l generalizing n with
  | nil => rfl
  | cons c l ih => cases h : p c <;> simp [h, ih]

namespace Palette

variable (palette : Palette)

theorem reached_rowSymbols (line : String) (row : Nat) :
    palette.reached (rowSymbols line row) =
      rowSymbols (String.ofList (line.toList.takeWhile fun c => palette.contains c)) row := by
  rw [reached, rowSymbols, List.takeWhile_map, rowSymbols, String.toList_ofList,
    ← takeWhile_zipIdx]
  rfl

theorem reached_cons (symbol : Symbol) (symbols : List Symbol) :
    palette.reached (symbol :: symbols) =
      if palette.contains symbol.char then symbol :: palette.reached symbols else [] :=
  List.takeWhile_cons

theorem reached_append (symbols rest : List Symbol) :
    palette.reached (symbols ++ rest) =
      if symbols.all fun symbol => palette.contains symbol.char then symbols ++ palette.reached rest
      else palette.reached symbols := by
  induction symbols with
  | nil => rfl
  | cons symbol symbols ih =>
    rw [List.cons_append, reached_cons, ih, List.all_cons, reached_cons]
    cases palette.contains symbol.char with
    | false => rfl
    | true => cases symbols.all fun symbol => palette.contains symbol.char <;> rfl

/-- A drawing that is cut in the middle of a row has the symbols before the cut. -/
theorem symbolsFrom_knownRows (rows : List String) (first : Nat) :
    symbolsFrom (palette.knownRows rows) first = palette.reached (symbolsFrom rows first) := by
  induction rows generalizing first with
  | nil => rfl
  | cons line rows ih =>
    rw [knownRows, symbolsFrom_cons, reached_append, all_rowSymbols]
    split
    · rw [symbolsFrom_cons, ih]
    · rw [symbolsFrom_cons, reached_rowSymbols]
      exact List.append_nil _

variable {palette} {symbols : List Symbol}

theorem known_of_mem_reached {symbol : Symbol} (h : symbol ∈ palette.reached symbols) :
    symbol.char ∈ palette :=
  Std.ExtTreeMap.mem_iff_contains.mpr
    (List.mem_takeWhile_imp (p := fun symbol : Symbol => palette.contains symbol.char) h)

/-- Unless all symbols are known, one that is not comes next after those that are reached. -/
theorem exists_unknown (h : ∃ symbol ∈ symbols, symbol.char ∉ palette) :
    ∃ unknown rest, symbols = palette.reached symbols ++ unknown :: rest ∧
      unknown.char ∉ palette := by
  obtain ⟨symbol, hs, hchar⟩ := h
  have hrest : symbols.dropWhile (fun symbol => palette.contains symbol.char) ≠ [] := by
    intro hnil
    exact hchar (Std.ExtTreeMap.mem_iff_contains.mpr (List.dropWhile_eq_nil_iff.mp hnil symbol hs))
  obtain ⟨unknown, rest, heq⟩ := List.exists_cons_of_ne_nil hrest
  have hhead := List.head_dropWhile_not (fun symbol : Symbol => palette.contains symbol.char) hrest
  simp only [heq, List.head_cons] at hhead
  refine ⟨unknown, rest, ?_, ?_⟩
  · rw [reached, ← heq, List.takeWhile_append_dropWhile]
  · rw [Std.ExtTreeMap.mem_iff_contains, hhead]
    exact Bool.false_ne_true

end Palette

theorem Action.symbols_knownPart (action : Action) :
    action.knownPart.symbols = action.palette.reached action.symbols :=
  action.palette.symbolsFrom_knownRows action.rows 0

/-! ### Painting and the reach -/

namespace Builder

theorem extend_comm (builder : Builder) (place other : Place) :
    (builder.extend place).extend other = (builder.extend other).extend place := by
  have hreach : max (max (max (max builder.reach place.x) place.y) other.x) other.y =
      max (max (max (max builder.reach other.x) other.y) place.x) place.y := by omega
  simp only [extend, hreach]

/-- A stroke neither asks for the reach nor changes it. -/
theorem stroke_extend (builder : Builder) (place : Place) (mode : StitchMode) (dye : PaletteEntry)
    (cell : Cell) :
    (builder.extend place).stroke mode dye cell = (builder.stroke mode dye cell).extend place := by
  have hindex : (builder.extend place).index = builder.index := rfl
  unfold Builder.stroke Builder.locate
  rw [hindex]
  cases builder.index[(⟨dye.resolved, mode⟩ : Strand)]? <;> rfl

theorem paint_extend (palette : Palette) (mode : StitchMode) (offset : Offset)
    (symbols : List Symbol) (builder : Builder) (place : Place) :
    paint palette mode offset (builder.extend place) symbols =
      (paint palette mode offset builder symbols).map (Builder.extend · place) id := by
  induction symbols generalizing builder with
  | nil => rfl
  | cons symbol symbols ih =>
    rw [paint, paint, extend_comm]
    cases palette[symbol.char]? with
    | none => rfl
    | some dye =>
      dsimp only
      split
      · exact ih _
      · rw [stroke_extend]
        exact ih _

/-- An action is painted and refused alike, however far the builder reaches. -/
theorem add_extend (builder : Builder) (place : Place) (action : Action) :
    (builder.extend place).add action =
      (builder.add action).map (Builder.extend · place) id := by
  rw [add, add]
  cases action.mode with
  | none => rfl
  | some mode =>
    dsimp only
    rw [paint_extend]
    rcases paint action.palette mode action.offset builder action.symbols with ⟨next, kind | _⟩ <;>
      rfl

theorem addEach_extend (actions : List Action) (builder : Builder) (place : Place) :
    (builder.extend place).addEach actions = (builder.addEach actions).extend place := by
  induction actions generalizing builder with
  | nil => rfl
  | cons action actions ih =>
    rw [addEach, List.foldl_cons, add_extend]
    exact ih _

/-! ### Giving up -/

theorem paint_append {palette : Palette} {known : List Symbol}
    (h : ∀ symbol ∈ known, symbol.char ∈ palette) (mode : StitchMode) (offset : Offset)
    (symbols : List Symbol) (builder : Builder) :
    paint palette mode offset builder (known ++ symbols) =
      paint palette mode offset (paint palette mode offset builder known).1 symbols := by
  induction known generalizing builder with
  | nil => rfl
  | cons symbol known ih =>
    obtain ⟨hsymbol, hknown⟩ := List.forall_mem_cons.mp h
    rw [List.cons_append, paint, paint, Std.ExtTreeMap.getElem?_eq_some_getElem hsymbol]
    dsimp only
    split
    · exact ih hknown _
    · exact ih hknown _

theorem paint_unknown {palette : Palette} {unknown : Symbol} (h : unknown.char ∉ palette)
    (mode : StitchMode) (offset : Offset) (rest : List Symbol) (builder : Builder) :
    paint palette mode offset builder (unknown :: rest) =
      (builder.extend (unknown.place offset), .error .symbolUnknown) := by
  rw [paint, Std.ExtTreeMap.getElem?_eq_none h]

theorem outcome_add_eq_ok_iff {builder : Builder} {action : Action} :
    (builder.add action).2 = .ok () ↔ action.Paintable := by
  rw [outcome_add, ← Action.flaw?_eq_none_iff]
  cases action.flaw? <;> simp

theorem outcome_add_eq_error_iff {builder : Builder} {action : Action} {fault : Fault} :
    (builder.add action).2 = .error fault ↔ ¬ action.Paintable ∧
      fault = .chart (if action.mode = none then .invalidStitchMode else .symbolUnknown)
        action.rows := by
  rw [outcome_add, ← Action.flaw?_eq_some_iff]
  cases action.flaw? <;> simp

/-- A builder that gives an action up at a symbol has painted the part before it and taken in the
symbol's place. -/
theorem add_of_unknown (builder : Builder) {action : Action} (hmode : action.mode ≠ none)
    (hnot : ¬ action.Paintable) :
    ∃ unknown rest painted, action.symbols = action.knownPart.symbols ++ unknown :: rest ∧
      unknown.char ∉ action.palette ∧ builder.add action.knownPart = (painted, .ok ()) ∧
      builder.add action = (painted.extend (unknown.place action.offset),
        .error (.chart .symbolUnknown action.rows)) := by
  have hunknown : ∃ symbol ∈ action.symbols, symbol.char ∉ action.palette := by
    by_contra! hall
    exact hnot ⟨hmode, hall⟩
  obtain ⟨mode, hmode⟩ := Option.ne_none_iff_exists'.mp hmode
  obtain ⟨unknown, rest, hsymbols, hunknown⟩ := Palette.exists_unknown hunknown
  rw [← action.symbols_knownPart] at hsymbols
  have hknown : ∀ symbol ∈ action.knownPart.symbols, symbol.char ∈ action.palette := by
    rw [action.symbols_knownPart]
    exact fun _ => Palette.known_of_mem_reached
  have hmode' : action.knownPart.mode = some mode := hmode
  have hpart : action.knownPart.Paintable := ⟨by rw [hmode']; exact nofun, hknown⟩
  have hpainted : (builder.add action.knownPart).1 =
      (paint action.palette mode action.offset builder action.knownPart.symbols).1 := by
    rw [add, hmode']
    dsimp only
    split <;> exact congrArg Prod.fst (Eq.symm ‹_›)
  refine ⟨unknown, rest, (builder.add action.knownPart).1, hsymbols, hunknown,
    Prod.ext rfl (outcome_add_eq_ok_iff.mpr hpart), ?_⟩
  have hrun := paint_append hknown mode action.offset (unknown :: rest) builder
  rw [← hsymbols, paint_unknown hunknown, ← hpainted] at hrun
  rw [add, hmode]
  dsimp only
  rw [hrun]

end Builder

/-- An action without a mode leaves the builder unchanged. One that is given up at a symbol leaves
it as an action with the symbols before that one does, and only the reach takes in one place more.
So the builder comes to the same entries and the same usage, and any later actions are painted
over them, each being accepted or refused as it would be then. -/
theorem failed_add_keeps_known_part (builder next : Builder) (action : Action)
    (trace : List String) :
    (builder.add action = (next, .error (.chart .invalidStitchMode trace)) → next = builder) ∧
    (builder.add action = (next, .error (.chart .symbolUnknown trace)) →
      ∃ unknown rest painted, action.symbols = action.knownPart.symbols ++ unknown :: rest ∧
        (∀ symbol ∈ action.knownPart.symbols, symbol.char ∈ action.palette) ∧
        unknown.char ∉ action.palette ∧
        builder.add action.knownPart = (painted, .ok ()) ∧
        next = painted.extend (unknown.place action.offset) ∧
        ∀ later : List Action,
          next.addEach later = (painted.addEach later).extend (unknown.place action.offset) ∧
          (next.addEach later).build =
            (Pattern.sizeOf? (reachOver (painted.addEach later).reach
              [unknown.place action.offset] + 1)).map (fun size =>
                ⟨size, (painted.addEach later).entries.toList, (painted.addEach later).usage⟩) ∧
          ∀ other, ((next.addEach later).add other).2 = ((painted.addEach later).add other).2) := by
  constructor
  · intro h
    obtain ⟨_, hfault⟩ := Builder.outcome_add_eq_error_iff.mp (congrArg Prod.snd h)
    have hmode : action.mode = none := by
      by_contra hmode
      rw [if_neg hmode] at hfault
      cases hfault
    rw [Builder.add, hmode] at h
    exact (congrArg Prod.fst h).symm
  · intro h
    obtain ⟨hnot, hfault⟩ := Builder.outcome_add_eq_error_iff.mp (congrArg Prod.snd h)
    have hmode : action.mode ≠ none := by
      intro hmode
      rw [if_pos hmode] at hfault
      cases hfault
    obtain ⟨unknown, rest, painted, hsymbols, hunknown, hpart, hadd⟩ :=
      builder.add_of_unknown hmode hnot
    have hnext : next = painted.extend (unknown.place action.offset) :=
      congrArg Prod.fst (h.symm.trans hadd)
    have hknown : ∀ symbol ∈ action.knownPart.symbols, symbol.char ∈ action.palette := by
      rw [action.symbols_knownPart]
      exact fun _ => Palette.known_of_mem_reached
    refine ⟨unknown, rest, painted, hsymbols, hknown, hunknown, hpart, hnext, fun later => ?_⟩
    have hlater : next.addEach later =
        (painted.addEach later).extend (unknown.place action.offset) := by
      rw [hnext, Builder.addEach_extend]
    rw [hlater]
    refine ⟨rfl, rfl, fun other => ?_⟩
    rw [Builder.add_extend]
    rfl

/-- A drawing whose second row has a character that the palette does not have. -/
def ragged : Action :=
  ⟨Std.ExtTreeMap.empty.insert 'a' ⟨'a', "red", "red"⟩, some .crossStitch, ["a", "a?a"], ⟨1, 0⟩⟩

/-- The pattern has the crosses before the character, and is as large as to hold the character. A
later drawing without a mode does not change it. -/
theorem ragged_keeps_known_part :
    ∃ next last, Builder.start.add ragged = (next, .error (.chart .symbolUnknown ["a", "a?a"])) ∧
      next.add { ragged with mode := none } =
        (last, .error (.chart .invalidStitchMode ["a", "a?a"])) ∧ last = next ∧
      (next.build.map fun pattern => (pattern.size, pattern.outline)) =
        .ok (3, [(⟨"red", .crossStitch⟩, [⟨2, 1⟩, ⟨2, 2⟩])]) := by
  have hragged : Builder.start.add ragged =
      ((Builder.start.add ragged).1, .error (.chart .symbolUnknown ["a", "a?a"])) :=
    Prod.ext rfl (by decide +kernel)
  have hnone : ∀ builder : Builder, builder.add { ragged with mode := none } =
      ((builder.add { ragged with mode := none }).1,
        .error (.chart .invalidStitchMode ["a", "a?a"])) := fun _ => rfl
  obtain ⟨unknown, rest, painted, hsymbols, _, _, hpart, hnext, hlater⟩ :=
    (failed_add_keeps_known_part _ _ _ _).2 hragged
  refine ⟨_, _, hragged, hnone _, (failed_add_keeps_known_part _ _ _ _).1 (hnone _), ?_⟩
  have hall : ragged.symbols = [⟨0, 0, 'a'⟩, ⟨0, 1, 'a'⟩, ⟨1, 1, '?'⟩, ⟨2, 1, 'a'⟩] := by
    decide +kernel
  have hknown : ragged.knownPart.symbols = [⟨0, 0, 'a'⟩, ⟨0, 1, 'a'⟩] := by decide +kernel
  rw [hall, hknown] at hsymbols
  cases hsymbols
  cases (congrArg Prod.fst hpart : (Builder.start.add ragged.knownPart).1 = painted)
  have hbuild : (Builder.start.add ragged).1.build = _ := (hlater []).2.1
  rw [hbuild]
  decide +kernel

/-! ### Patterns that are made

Given-up drawings make no other patterns than drawings that are painted to the end. -/

/-- An action that stitches nothing and reaches as far as the given place. -/
def Place.marker (place : Place) : Action :=
  let palette : Palette := Std.ExtTreeMap.empty.insert ' ' ⟨' ', noColour, noColour⟩
  ⟨palette, some .crossStitch, List.replicate (max place.x place.y + 2 ^ 31).toNat "" ++ [" "],
    ⟨Int32.minValue, Int32.minValue⟩⟩

theorem symbolsFrom_marker (n first : Nat) :
    symbolsFrom (List.replicate n "" ++ [" "]) first = [⟨0, first + n, ' '⟩] := by
  induction n generalizing first with
  | zero => rfl
  | succ n ih =>
    have hblank : rowSymbols "" first = [] := rfl
    rw [List.replicate_succ, List.cons_append, symbolsFrom_cons, hblank, List.nil_append, ih,
      Nat.add_right_comm, Nat.add_assoc]

namespace Builder

/-- A blank that is not stitched takes the place into the reach. -/
theorem add_marker (builder : Builder) {place : Place} (h : -2 ^ 31 ≤ place.x) :
    builder.add place.marker = (builder.extend place, .ok ()) := by
  have hsymbols : place.marker.symbols = [⟨0, (max place.x place.y + 2 ^ 31).toNat, ' '⟩] :=
    (symbolsFrom_marker _ 0).trans (by rw [Nat.zero_add])
  have hknown : place.marker.palette[' ']? = some ⟨' ', noColour, noColour⟩ :=
    Std.ExtTreeMap.getElem?_insert_self
  have hmode : place.marker.mode = some .crossStitch := rfl
  have hmin : Int32.minValue.toInt = -2 ^ 31 := rfl
  have hextend : builder.extend
      ((⟨0, (max place.x place.y + 2 ^ 31).toNat, ' '⟩ : Symbol).place place.marker.offset) =
        builder.extend place := by
    have hreach : max (max builder.reach ((0 : Nat) + Int32.minValue.toInt))
        ((max place.x place.y + 2 ^ 31).toNat + Int32.minValue.toInt) =
          max (max builder.reach place.x) place.y := by omega
    exact congrArg (fun reach => { builder with reach }) hreach
  rw [add, hmode]
  dsimp only
  rw [hsymbols, paint, hextend, hknown]
  rfl

/-- What any action leaves behind could have been painted by actions without a flaw. -/
theorem exists_paintable_step (builder : Builder) (action : Action) :
    ∃ part : List Action, (∀ a ∈ part, a.Paintable) ∧
      builder.addEach part = (builder.add action).1 := by
  by_cases hpaintable : action.Paintable
  · exact ⟨[action], by simpa using hpaintable, rfl⟩
  by_cases hmode : action.mode = none
  · exact ⟨[], by simp, by rw [add, hmode]; rfl⟩
  obtain ⟨unknown, rest, painted, _, _, hpart, hadd⟩ := builder.add_of_unknown hmode hpaintable
  have hplace : -2 ^ 31 ≤ (unknown.place action.offset).x := by
    have hoffset := Int32.le_toInt action.offset.x
    show -2 ^ 31 ≤ (unknown.column : Int) + action.offset.x.toInt
    omega
  have hmarker := painted.add_marker hplace
  refine ⟨[action.knownPart, (unknown.place action.offset).marker], ?_, ?_⟩
  · intro a ha
    rcases List.mem_pair.mp ha with rfl | rfl
    · exact outcome_add_eq_ok_iff.mp (congrArg Prod.snd hpart)
    · exact outcome_add_eq_ok_iff.mp (congrArg Prod.snd hmarker)
  · rw [addEach, List.foldl_cons, hpart, List.foldl_cons, hmarker, hadd]
    rfl

theorem exists_paintable_run (builder : Builder) (actions : List Action) :
    ∃ accepted : List Action, (∀ a ∈ accepted, a.Paintable) ∧
      builder.addEach accepted = builder.addEach actions := by
  induction actions generalizing builder with
  | nil => exact ⟨[], by simp, rfl⟩
  | cons action actions ih =>
    obtain ⟨part, hpart, hstep⟩ := builder.exists_paintable_step action
    obtain ⟨accepted, haccepted, hrun⟩ := ih (builder.add action).1
    refine ⟨part ++ accepted, List.forall_mem_append.mpr ⟨hpart, haccepted⟩, ?_⟩
    have happend : builder.addEach (part ++ accepted) = (builder.addEach part).addEach accepted :=
      List.foldl_append
    rw [happend, hstep, hrun]
    rfl

end Builder

/-- A pattern is made, whether or not all that was added on the way was accepted. -/
theorem Pattern.made_of_addEach {actions : List Action} {pattern : Pattern}
    (h : (Builder.start.addEach actions).build = .ok pattern) : pattern.Made := by
  obtain ⟨accepted, hpaintable, hrun⟩ := Builder.start.exists_paintable_run actions
  have haccepted : patternOfActions accepted = .ok pattern := by
    rw [patternOfActions, Builder.addAll_eq, firstFlaw?_eq_none_iff.mpr hpaintable]
    dsimp only
    rw [hrun]
    exact h
  exact .painted haccepted

end CrossStitch
