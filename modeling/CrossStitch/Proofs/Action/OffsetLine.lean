import CrossStitch.Proofs.Action.Printing
import CrossStitch.Proofs.Text.Misspelt

/-! What offset lines mean. A line with one mark between two integers moves the drawing by them, and
every offset has a line that means it. Any other line is refused, for its marks or else for what
is wrong with its first bad number, and leaves the offset as it was. -/

namespace CrossStitch

/-- What is wrong with an offset line. -/
inductive FaultyOffset (line : String) : ChartFault → Prop
  | marks (h : line.toList.count 'x' ≠ 1) : FaultyOffset line .offsetFormatInvalid
  | left {left right : List Char} {fault : Text.IntegerFault}
      (hline : line.toList = left ++ 'x' :: right) (hl : 'x' ∉ left) (hr : 'x' ∉ right)
      (h : Text.Misspells (Text.trim left) fault) : FaultyOffset line (.invalidInteger fault)
  | right {left right : List Char} {x : Int32} {fault : Text.IntegerFault}
      (hline : line.toList = left ++ 'x' :: right) (hl : 'x' ∉ left) (hr : 'x' ∉ right)
      (hx : Text.Spells (Text.trim left) x.toInt) (h : Text.Misspells (Text.trim right) fault) :
      FaultyOffset line (.invalidInteger fault)

def Session.withOffset (session : Session) (offset : Offset) : Session :=
  { session with current := { session.current with offset } }

/-- A text with one mark has no mark on either side of it. -/
theorem count_eq_one_iff {text : List Char} {c : Char} :
    text.count c = 1 ↔ ∃ left right, text = left ++ c :: right ∧ c ∉ left ∧ c ∉ right := by
  constructor
  · intro h
    have hmem : c ∈ text := List.count_pos_iff.mp (by omega)
    obtain ⟨left, right, rfl, hl⟩ := List.eq_append_cons_of_mem hmem
    refine ⟨left, right, rfl, hl, fun hr => ?_⟩
    have hmore := List.count_pos_iff.mpr hr
    rw [List.count_append, List.count_cons_self] at h
    omega
  · rintro ⟨left, right, rfl, hl, hr⟩
    rw [List.count_append, List.count_cons_self, List.count_eq_zero_of_not_mem hl,
      List.count_eq_zero_of_not_mem hr]

theorem pair?_offsetMark_eq_none_iff {line : List Char} :
    Text.pair? offsetMark line = none ↔ line.count 'x' ≠ 1 := by
  rw [Ne, count_eq_one_iff, Option.eq_none_iff_forall_ne_some]
  constructor
  · rintro h ⟨left, right, hline⟩
    exact h (left, right) (pair?_offsetMark_iff.mpr hline)
  · rintro h ⟨left, right⟩ hpair
    exact h ⟨left, right, pair?_offsetMark_iff.mp hpair⟩

theorem readNumber_eq_error_iff {text : List Char} {kind : ChartFault} :
    Session.readNumber text = .error kind ↔
      ∃ fault, kind = .invalidInteger fault ∧ Text.Misspells (Text.trim text) fault := by
  simp only [← Text.readInt32_eq_error_iff]
  rw [Session.readNumber]
  cases Text.readInt32 (Text.trim text) <;> simp [eq_comm]

/-- A line is refused for what is wrong with it, and of two bad numbers for the one on the left. -/
theorem takeOffset_eq_error_iff {action : Action} {line : String} {kind : ChartFault} :
    Session.takeOffset action [line] = .error kind ↔ FaultyOffset line kind := by
  rw [Session.takeOffset]
  constructor
  · intro h
    split at h
    next hnone =>
      cases h
      exact .marks (pair?_offsetMark_eq_none_iff.mp hnone)
    next left right hpair =>
      obtain ⟨hline, hl, hr⟩ := pair?_offsetMark_iff.mp hpair
      cases hx : Session.readNumber left with
      | error fault =>
        rw [hx] at h
        cases h
        obtain ⟨fault, rfl, hbad⟩ := readNumber_eq_error_iff.mp hx
        exact .left hline hl hr hbad
      | ok x =>
        cases hy : Session.readNumber right with
        | error fault =>
          rw [hx, hy] at h
          cases h
          obtain ⟨fault, rfl, hbad⟩ := readNumber_eq_error_iff.mp hy
          exact .right hline hl hr (readNumber_eq_ok_iff.mp hx) hbad
        | ok y =>
          rw [hx, hy] at h
          cases h
  · intro h
    cases h with
    | marks hcount => rw [pair?_offsetMark_eq_none_iff.mpr hcount]
    | left hline hl hr hbad =>
      rw [pair?_offsetMark_iff.mpr ⟨hline, hl, hr⟩]
      simp only [readNumber_eq_error_iff.mpr ⟨_, rfl, hbad⟩]
      rfl
    | right hline hl hr hx hbad =>
      rw [pair?_offsetMark_iff.mpr ⟨hline, hl, hr⟩]
      simp only [readNumber_eq_ok_iff.mpr hx, readNumber_eq_error_iff.mpr ⟨_, rfl, hbad⟩]
      rfl

section Feed

variable {colours : ColourTable} {session after : Session} {line : String}

theorem feed_offset_eq_ok_iff :
    session.feed colours ⟨"offset", [line]⟩ = (after, .ok ()) ↔
      ∃ offset, IsOffset line offset ∧ after = session.withOffset offset := by
  refine feed_offset_iff.trans (exists_congr fun offset => ?_)
  constructor
  · rintro ⟨⟨_, hsingle, hoffset⟩, hgrant⟩
    cases hsingle
    exact ⟨hoffset, (Option.some.inj hgrant).symm⟩
  · rintro ⟨hoffset, rfl⟩
    exact ⟨⟨line, rfl, hoffset⟩, rfl⟩

theorem feed_offset_eq_error_iff {fault : Fault} :
    session.feed colours ⟨"offset", [line]⟩ = (after, .error fault) ↔
      after = session ∧ ∃ kind, FaultyOffset line kind ∧ fault = .chart kind [line] := by
  have htaken {kind : ChartFault} :
      Session.takeOffset session.current [line] = .error kind ↔ FaultyOffset line kind :=
    takeOffset_eq_error_iff
  simp only [← htaken, Session.feed, BlockKind.ofWord?, Session.settleCurrent]
  cases Session.takeOffset session.current [line] with
  | ok next => simp [Except.map, Session.settle]
  | error kind => simp [Except.map, Session.settle, eq_comm]

end Feed

/-- An offset line is accepted if it has one mark between two integers, and then the offset is that
pair. So every offset is set by the line it is printed as. Any other line is refused for its marks
or for the first of its numbers that is bad, and nothing is changed. -/
theorem offset_line_means_integers (colours : ColourTable) (session : Session) (line : String) :
    (∀ after, session.feed colours ⟨"offset", [line]⟩ = (after, .ok ()) ↔
      ∃ offset, IsOffset line offset ∧ after = session.withOffset offset) ∧
    (∀ offset : Offset, session.feed colours ⟨"offset", [offset.line]⟩ =
      (session.withOffset offset, .ok ())) ∧
    ∀ after fault, session.feed colours ⟨"offset", [line]⟩ = (after, .error fault) ↔
      after = session ∧ ∃ kind, FaultyOffset line kind ∧ fault = .chart kind [line] :=
  ⟨fun _ => feed_offset_eq_ok_iff,
    fun offset => feed_offset_eq_ok_iff.mpr ⟨offset, isOffset_line offset, rfl⟩,
    fun _ _ => feed_offset_eq_error_iff⟩

/-- The left number leaves the range before the character that is no digit is reached. -/
example : (Session.start.feed .empty ⟨"offset", [" 21474836480?x-"]⟩).2 =
    .error (.chart (.invalidInteger .tooLarge) [" 21474836480?x-"]) := by
  decide +kernel

end CrossStitch
