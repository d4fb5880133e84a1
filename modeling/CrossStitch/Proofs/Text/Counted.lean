import CrossStitch.Proofs.Text.Line
import CrossStitch.Proofs.Text.Signed
import Std.Data.String.ToNat

/-! Lines with a count in them. A number is told by its digits, so of a text that goes on with a
mark and a number, both the text and the number are told, as long as the mark does not end in
a digit itself. -/

namespace CrossStitch.Text

theorem isDigit_of_mem_toString {n : Nat} {c : Char} (h : c ∈ (toString n).toList) :
    c.isDigit = true := by
  rw [Nat.toString_eq_repr, Nat.toList_repr] at h
  exact isDigit_of_mem_toDigits h

/-- Digits at the end of a text are told from what stands before them. -/
theorem append_digits_inj {a b digits digits' : List Char}
    (ha : ∀ c ∈ a.getLast?, c.isDigit = false) (hb : ∀ c ∈ b.getLast?, c.isDigit = false)
    (hd : ∀ c ∈ digits, c.isDigit = true) (hd' : ∀ c ∈ digits', c.isDigit = true)
    (h : a ++ digits = b ++ digits') : a = b ∧ digits = digits' := by
  have hend : ∀ {text ds : List Char}, (∀ c ∈ text.getLast?, c.isDigit = false) →
      (∀ c ∈ ds, c.isDigit = true) →
        ((text ++ ds).reverse.takeWhile Char.isDigit).reverse = ds := by
    intro text ds htext hds
    have hnone : text.reverse.takeWhile Char.isDigit = [] := by
      rw [← List.head?_eq_none_iff, List.head?_takeWhile, List.head?_reverse,
        Option.filter_eq_none_iff]
      intro c hc
      simp [htext c hc]
    rw [List.reverse_append, List.takeWhile_append_of_pos (by simpa using hds), hnone,
      List.append_nil, List.reverse_reverse]
  have hdigits : digits = digits' := by
    rw [← hend ha hd, h, hend hb hd']
  subst hdigits
  exact ⟨List.append_cancel_right h, rfl⟩

/-- A text and a number that follow each other with marks are both told by the whole. -/
theorem counted_inj {mark close : String}
    (hmark : ∃ c, mark.toList.getLast? = some c ∧ c.isDigit = false) {a b : String} {m n : Nat}
    (h : a ++ mark ++ toString m ++ close = b ++ mark ++ toString n ++ close) :
    a = b ∧ m = n := by
  obtain ⟨c, hlast, hc⟩ := hmark
  have hstop : ∀ text : String, ∀ d ∈ (text ++ mark).toList.getLast?, d.isDigit = false := by
    intro text d hd
    rw [String.toList_append, List.getLast?_append, hlast] at hd
    cases hd
    exact hc
  have hlist : (a ++ mark).toList ++ (toString m).toList = (b ++ mark).toList ++ (toString n).toList := by
    rw [← String.toList_append, ← String.toList_append, (String.append_left_inj close).mp h]
  obtain ⟨htext, hcount⟩ := append_digits_inj (hstop a) (hstop b)
    (fun _ => isDigit_of_mem_toString) (fun _ => isDigit_of_mem_toString) hlist
  refine ⟨(String.append_left_inj mark).mp (String.toList_injective htext), ?_⟩
  exact Nat.repr_injective (String.toList_injective hcount)

/-- With a count in it, a line is still a line. -/
theorem isLine_counted {text mark close : String} (ht : '\n' ∉ text.toList)
    (hm : '\n' ∉ mark.toList) (hc : '\n' ∉ close.toList)
    (hlast : ∃ c, close.toList.getLast? = some c ∧ c ≠ '\r') (n : Nat) :
    IsLine (text ++ mark ++ toString n ++ close).toList := by
  obtain ⟨c, hlast, hend⟩ := hlast
  have hdigits : '\n' ∉ (toString n).toList :=
    fun h => absurd (isDigit_of_mem_toString h) (by decide)
  simp only [IsLine, String.toList_append, List.mem_append, not_or, List.getLast?_append, hlast,
    Option.some_or, ne_eq, Option.some.injEq]
  exact ⟨⟨⟨⟨ht, hm⟩, hdigits⟩, hc⟩, hend⟩

end CrossStitch.Text
