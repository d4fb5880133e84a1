import CrossStitch.Proofs.Text.Signed

/-! What is wrong with the text of an integer. Digits are read up to the first character that is
no digit or takes the value out of the range, and what comes after it does not matter. So a text
that spells no integer in the range is misspelt in one of four ways. -/

namespace CrossStitch.Text

/-- What is wrong with the digits behind a sign, if a value above `limit` is the fault `beyond`. -/
inductive BadDigits (limit : Nat) (beyond : IntegerFault) : List Char → IntegerFault → Prop
  | none : BadDigits limit beyond [] .invalidDigit
  | other {digits rest : List Char} {c : Char} (hd : ∀ d ∈ digits, d.isDigit = true)
      (hv : Nat.ofDigitChars 10 digits 0 ≤ limit) (hc : c.isDigit = false) :
      BadDigits limit beyond (digits ++ c :: rest) .invalidDigit
  | outOfRange {digits rest : List Char} {c : Char} (hd : ∀ d ∈ digits, d.isDigit = true)
      (hv : Nat.ofDigitChars 10 digits 0 ≤ limit) (hc : c.isDigit = true)
      (hlt : limit < Nat.ofDigitChars 10 (digits ++ [c]) 0) :
      BadDigits limit beyond (digits ++ c :: rest) beyond

/-- What is wrong with a text, read as a signed 32-bit integer. -/
inductive Misspells : List Char → IntegerFault → Prop
  | empty : Misspells [] .empty
  | plus {digits : List Char} {fault : IntegerFault}
      (h : BadDigits largestInt32 .tooLarge digits fault) : Misspells ('+' :: digits) fault
  | minus {digits : List Char} {fault : IntegerFault}
      (h : BadDigits largestNegative .tooSmall digits fault) : Misspells ('-' :: digits) fault
  | unsigned {c : Char} {rest : List Char} {fault : IntegerFault} (hp : c ≠ '+') (hm : c ≠ '-')
      (h : BadDigits largestInt32 .tooLarge (c :: rest) fault) : Misspells (c :: rest) fault

variable {limit : Nat} {beyond fault : IntegerFault}

theorem digit?_eq_none {c : Char} (h : c.isDigit = false) : digit? c = none := by
  rw [Option.eq_none_iff_forall_ne_some]
  intro d hd
  rw [isDigit_of_digit? hd] at h
  cases h

/-- Reading goes on behind digits that stay in the range. -/
theorem readDigits_append {digits : List Char} {value : Nat}
    (hd : ∀ d ∈ digits, d.isDigit = true) (hv : Nat.ofDigitChars 10 digits value ≤ limit)
    (rest : List Char) :
    readDigits limit beyond value (digits ++ rest) =
      readDigits limit beyond (Nat.ofDigitChars 10 digits value) rest := by
  induction digits generalizing value with
  | nil => rfl
  | cons c digits ih =>
    rw [Nat.ofDigitChars_cons] at hv ⊢
    have hle := Nat.le_trans (le_ofDigitChars digits _) hv
    rw [List.cons_append, readDigits, digit?_of_isDigit (hd c List.mem_cons_self)]
    simp only [Nat.mul_comm value 10]
    rw [if_neg (Nat.not_lt.mpr hle), ih (fun d h => hd d (List.mem_cons_of_mem c h)) hv]

/-- Reading fails at the first character that cannot be taken in. -/
theorem readDigits_eq_error_iff {value : Nat} {text : List Char} (hv : value ≤ limit) :
    readDigits limit beyond value text = .error fault ↔
      ∃ digits c rest, text = digits ++ c :: rest ∧ (∀ d ∈ digits, d.isDigit = true) ∧
        Nat.ofDigitChars 10 digits value ≤ limit ∧
        (c.isDigit = false ∧ fault = .invalidDigit ∨
          c.isDigit = true ∧ limit < Nat.ofDigitChars 10 (digits ++ [c]) value ∧
            fault = beyond) := by
  constructor
  · intro h
    induction text generalizing value with
    | nil => cases h
    | cons c text ih =>
      cases hc : c.isDigit with
      | false =>
        rw [readDigits, digit?_eq_none hc] at h
        cases h
        exact ⟨[], c, text, rfl, List.forall_mem_nil _, hv, .inl ⟨hc, rfl⟩⟩
      | true =>
        have hnext : Nat.ofDigitChars 10 [c] value = 10 * value + (c.toNat - '0'.toNat) := rfl
        rw [readDigits, digit?_of_isDigit hc] at h
        simp only [Nat.mul_comm value 10, ← hnext] at h
        split at h
        next hlt =>
          cases h
          exact ⟨[], c, text, rfl, List.forall_mem_nil _, hv, .inr ⟨hc, hlt, rfl⟩⟩
        next hge =>
          obtain ⟨digits, stop, rest, rfl, hd, hle, hstop⟩ := ih (Nat.not_lt.mp hge) h
          exact ⟨c :: digits, stop, rest, rfl, List.forall_mem_cons.mpr ⟨hc, hd⟩, hle, hstop⟩
  · rintro ⟨digits, c, rest, rfl, hd, hle, hstop⟩
    rw [readDigits_append hd hle, readDigits]
    rcases hstop with ⟨hc, rfl⟩ | ⟨hc, hlt, rfl⟩
    · rw [digit?_eq_none hc]
    · rw [Nat.ofDigitChars_append, Nat.ofDigitChars_cons, Nat.ofDigitChars_nil] at hlt
      rw [digit?_of_isDigit hc]
      simp only [Nat.mul_comm _ 10]
      exact if_pos hlt

theorem readMagnitude_eq_error_iff {text : List Char} :
    readMagnitude limit beyond text = .error fault ↔ BadDigits limit beyond text fault := by
  cases text with
  | nil =>
    constructor
    · rintro ⟨⟩
      exact .none
    · intro h
      generalize hnil : ([] : List Char) = text at h
      cases h with
      | none => rfl
      | other => cases List.append_ne_nil_of_right_ne_nil _ (List.cons_ne_nil _ _) hnil.symm
      | outOfRange => cases List.append_ne_nil_of_right_ne_nil _ (List.cons_ne_nil _ _) hnil.symm
  | cons c text =>
    rw [readMagnitude, List.isEmpty_cons, if_neg Bool.false_ne_true,
      readDigits_eq_error_iff (Nat.zero_le limit)]
    constructor
    · rintro ⟨digits, stop, rest, htext, hd, hle, ⟨hc, rfl⟩ | ⟨hc, hlt, rfl⟩⟩
      · exact htext ▸ .other hd hle hc
      · exact htext ▸ .outOfRange hd hle hc hlt
    · intro h
      generalize hcons : c :: text = whole at h ⊢
      cases h with
      | none => cases hcons
      | other hd hle hc => exact ⟨_, _, _, rfl, hd, hle, .inl ⟨hc, rfl⟩⟩
      | outOfRange hd hle hc hlt => exact ⟨_, _, _, rfl, hd, hle, .inr ⟨hc, hlt, rfl⟩⟩

/-- Reading a text as an integer fails for what is wrong with it. -/
theorem readInt32_eq_error_iff {text : List Char} :
    readInt32 text = .error fault ↔ Misspells text fault := by
  constructor
  · intro h
    cases text with
    | nil =>
      cases h
      exact .empty
    | cons c rest =>
      by_cases hp : c = '+'
      · subst hp
        exact .plus (readMagnitude_eq_error_iff.mp (map_eq_error_iff.mp h))
      by_cases hm : c = '-'
      · subst hm
        exact .minus (readMagnitude_eq_error_iff.mp (map_eq_error_iff.mp h))
      rw [readInt32_of_unsigned hp hm, map_eq_error_iff] at h
      exact .unsigned hp hm (readMagnitude_eq_error_iff.mp h)
  · intro h
    cases h with
    | empty => rfl
    | plus h => exact map_eq_error_iff.mpr (readMagnitude_eq_error_iff.mpr h)
    | minus h => exact map_eq_error_iff.mpr (readMagnitude_eq_error_iff.mpr h)
    | unsigned hp hm h =>
      rw [readInt32_of_unsigned hp hm, map_eq_error_iff]
      exact readMagnitude_eq_error_iff.mpr h

end CrossStitch.Text
