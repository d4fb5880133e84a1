import CrossStitch.Render.Ascii

/-! Rows of one length, put one after the other. What stands at a place of such a list is told
by the row and the place in it. The lines of a text chart are made so, of two characters for
each column. -/

namespace CrossStitch

theorem length_flatMap_range {α : Type} {f : Nat → List α} {width : Nat}
    (hf : ∀ i, (f i).length = width) (n : Nat) :
    ((List.range n).flatMap f).length = width * n := by
  induction n with
  | zero => rfl
  | succ n ih =>
    rw [List.range_succ, List.flatMap_append, List.length_append, ih, List.flatMap_singleton, hf,
      Nat.mul_succ]

theorem getElem?_flatMap_range {α : Type} {f : Nat → List α} {width : Nat}
    (hf : ∀ i, (f i).length = width) {n i j : Nat} (hi : i < n) (hj : j < width) :
    ((List.range n).flatMap f)[width * i + j]? = (f i)[j]? := by
  induction n with
  | zero => omega
  | succ n ih =>
    have hlength := length_flatMap_range hf n
    rw [List.range_succ, List.flatMap_append, List.flatMap_singleton]
    rcases Nat.lt_succ_iff_lt_or_eq.mp hi with h | rfl
    · have hin : width * i + j < width * n := by
        have := Nat.mul_le_mul_left width h
        rw [Nat.mul_succ] at this
        omega
      rw [List.getElem?_append_left (by omega), ih h]
    · rw [List.getElem?_append_right (by omega), hlength, Nat.add_sub_cancel_left]

/-! ### Lines of text -/

namespace Ascii

/-- Every second character of a line is of one kind and the others are of another. -/
structure Alternates (line : String) (width : Nat) (even odd : Nat → Char) : Prop where
  length : line.length = 2 * width
  even : ∀ x, x < width → line.toList[2 * x]? = some (even x)
  odd : ∀ x, x < width → line.toList[2 * x + 1]? = some (odd x)

theorem alternates_ofList (width : Nat) (even odd : Nat → Char) :
    Alternates (String.ofList ((List.range width).flatMap fun x => [even x, odd x])) width even
      odd := by
  have htwo : ∀ x, [even x, odd x].length = 2 := fun _ => rfl
  have hpair {x j : Nat} (hx : x < width) (hj : j < 2) := getElem?_flatMap_range htwo hx hj
  refine ⟨?_, fun x hx => ?_, fun x hx => ?_⟩
  · rw [String.length_ofList, length_flatMap_range htwo]
  · rw [String.toList_ofList]
    exact hpair hx (j := 0) (by omega)
  · rw [String.toList_ofList]
    exact hpair hx (j := 1) (by omega)

/-- There is nothing behind the end of a line. -/
theorem Alternates.getD_of_le {line : String} {width : Nat} {even odd : Nat → Char}
    (h : Alternates line width even odd) {j : Nat} (hj : 2 * width ≤ j) :
    line.toList[j]?.getD ' ' = ' ' := by
  have hlong : line.toList.length ≤ j := by
    rw [String.length_toList, h.length]
    exact hj
  rw [List.getElem?_eq_none hlong, Option.getD_none]

theorem Alternates.getD_odd {line : String} {width : Nat} {even odd : Nat → Char}
    (h : Alternates line width even odd) {x : Nat} (hx : width ≤ x → odd x = ' ') :
    line.toList[2 * x + 1]?.getD ' ' = odd x := by
  rcases Nat.lt_or_ge x width with hin | hout
  · rw [h.odd x hin, Option.getD_some]
  · rw [h.getD_of_le (by omega), hx hout]

theorem Alternates.getD_even {line : String} {width : Nat} {even odd : Nat → Char}
    (h : Alternates line width even odd) {x : Nat} (hx : width ≤ x → even x = ' ') :
    line.toList[2 * x]?.getD ' ' = even x := by
  rcases Nat.lt_or_ge x width with hin | hout
  · rw [h.even x hin, Option.getD_some]
  · rw [h.getD_of_le (by omega), hx hout]

end Ascii

end CrossStitch
