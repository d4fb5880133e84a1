import CrossStitch.Proofs.Text.Counted
import CrossStitch.Render.Html
import Mathlib.Algebra.Group.Nat.Defs

/-! Numbers with zeros in front. Texts of digits that are equally long are ordered as the numbers
they are read as, since the first digit in which they differ outweighs all that follow. So
numbers that are padded to one width are ordered as the numbers themselves. -/

namespace CrossStitch.Text

/-! ### The order of digits -/

theorem lt_pow_of_digits {digits : List Char} (hd : ∀ c ∈ digits, c.isDigit = true) :
    Nat.ofDigitChars 10 digits 0 < 10 ^ digits.length := by
  induction digits with
  | nil => simp
  | cons c digits ih =>
    have hrest := ih fun d h => hd d (List.mem_cons_of_mem c h)
    have hc : c.toNat - '0'.toNat ≤ 9 := by
      have := (toNat_of_isDigit (hd c List.mem_cons_self)).2
      exact Nat.sub_le_of_le_add this
    have hplace := Nat.mul_le_mul_left (10 ^ digits.length) hc
    rw [Nat.ofDigitChars_cons, Nat.ofDigitChars_eq_ofDigitChars_zero, List.length_cons,
      Nat.pow_succ, Nat.mul_zero, Nat.zero_add]
    omega

/-- Digits in as many places are in the order of the numbers they are read as. -/
theorem lt_of_ofDigitChars_lt {a b : List Char} (ha : ∀ c ∈ a, c.isDigit = true)
    (hb : ∀ c ∈ b, c.isDigit = true) (hlength : a.length = b.length) {value : Nat}
    (h : Nat.ofDigitChars 10 a value < Nat.ofDigitChars 10 b value) : a < b := by
  induction a generalizing b value with
  | nil =>
    rw [List.eq_nil_of_length_eq_zero hlength.symm] at h
    exact absurd h (Nat.lt_irrefl _)
  | cons c a ih =>
    obtain ⟨d, b, rfl⟩ := List.exists_cons_of_length_eq_add_one hlength.symm
    have htails : a.length = b.length := Nat.succ.inj hlength
    have ha' : ∀ e ∈ a, e.isDigit = true := fun e he => ha e (List.mem_cons_of_mem c he)
    rw [List.cons_lt_cons_iff]
    rcases Nat.lt_trichotomy c.toNat d.toNat with hlt | heq | hgt
    · exact .inl hlt
    · obtain rfl := Char.toNat_inj.mp heq
      exact .inr ⟨rfl, ih ha' (fun e he => hb e (List.mem_cons_of_mem c he)) htails h⟩
    · -- what follows is worth less than one in this place
      have hplace :
          10 * value + (d.toNat - '0'.toNat) + 1 ≤ 10 * value + (c.toNat - '0'.toNat) := by
        have hzero := (toNat_of_isDigit (hb d List.mem_cons_self)).1
        omega
      have htail := lt_pow_of_digits fun e he => hb e (List.mem_cons_of_mem d he)
      rw [Nat.ofDigitChars_cons, Nat.ofDigitChars_cons, Nat.ofDigitChars_eq_ofDigitChars_zero,
        @Nat.ofDigitChars_eq_ofDigitChars_zero b, htails] at h
      have hmul := Nat.mul_le_mul_left (10 ^ b.length) hplace
      rw [Nat.mul_succ] at hmul
      omega

/-! ### Padding -/

/-- The number in decimal, with zeros in front up to the width. -/
structure IsPadded (width n : Nat) (text : String) : Prop where
  length : text.length = width
  digits : ∃ zeros, text = String.ofList (List.replicate zeros '0') ++ toString n

variable {width m n : Nat} {text other : String}

theorem IsPadded.isDigit (h : IsPadded width n text) : ∀ c ∈ text.toList, c.isDigit = true := by
  obtain ⟨zeros, rfl⟩ := h.digits
  intro c hc
  rw [String.toList_append, String.toList_ofList, List.mem_append] at hc
  rcases hc with hc | hc
  · rw [List.eq_of_mem_replicate hc]
    decide
  · exact isDigit_of_mem_toString hc

theorem IsPadded.value (h : IsPadded width n text) : Nat.ofDigitChars 10 text.toList 0 = n := by
  obtain ⟨zeros, rfl⟩ := h.digits
  rw [String.toList_append, String.toList_ofList, Nat.toString_eq_repr, Nat.toList_repr,
    Nat.ofDigitChars_append, Nat.ofDigitChars_replicate_zero, Nat.mul_zero,
    Nat.ofDigitChars_ten_toDigits]

/-- Padded numbers are in the order of the numbers. -/
theorem IsPadded.lt (h : IsPadded width m text) (h' : IsPadded width n other) (hlt : m < n) :
    text < other := by
  rw [String.lt_iff]
  have hlength : text.toList.length = other.toList.length := by
    rw [String.length_toList, String.length_toList, h.length, h'.length]
  have hvalue : Nat.ofDigitChars 10 text.toList 0 < Nat.ofDigitChars 10 other.toList 0 := by
    rwa [h.value, h'.value]
  exact lt_of_ofDigitChars_lt h.isDigit h'.isDigit hlength hvalue

theorem IsPadded.unique (h : IsPadded width n text) (h' : IsPadded width n other) :
    text = other := by
  obtain ⟨zeros, rfl⟩ := h.digits
  obtain ⟨zeros', rfl⟩ := h'.digits
  have hlength := h.length.trans h'.length.symm
  simp only [String.length_append, String.length_ofList, List.length_replicate] at hlength
  rw [Nat.add_right_cancel hlength]

/-- A number is padded to any width that has room for it. -/
theorem isPadded_padded (h : (toString n).length ≤ width) :
    IsPadded width n (Html.padded width n) := by
  refine ⟨?_, _, rfl⟩
  rw [Html.padded, String.length_append, String.length_ofList, List.length_replicate]
  omega

/-- A number has no more digits than a larger one. -/
theorem length_toString_le (h : m ≤ n) : (toString m).length ≤ (toString n).length := by
  have hpos : 0 < (toString n).length := Nat.length_repr_pos
  have hn : n < 10 ^ (toString n).length := (Nat.length_repr_le_iff hpos).mp (Nat.le_refl _)
  exact (Nat.length_repr_le_iff hpos).mpr (Nat.lt_of_le_of_lt h hn)

end CrossStitch.Text
