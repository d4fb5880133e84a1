import CrossStitch.Proofs.Outcome
import CrossStitch.Proofs.Text.Trim
import CrossStitch.Text.Signed

/-! The texts of signed 32-bit integers. A text is read as an integer exactly when
it spells it: an optional sign and at least one digit, with a value in the range.
The text that an integer is printed as spells it, up to both ends of the range. -/

namespace CrossStitch.Text

theorem digit?_of_isDigit {c : Char} (h : c.isDigit = true) :
    digit? c = some (c.toNat - '0'.toNat) := by
  simp only [Char.isDigit, Bool.and_eq_true, decide_eq_true_eq] at h
  exact if_pos h

theorem isDigit_of_digit? {c : Char} {d : Nat} (h : digit? c = some d) : c.isDigit = true := by
  unfold digit? at h
  split at h
  next hc =>
    simp only [Char.isDigit, Bool.and_eq_true, decide_eq_true_eq]
    exact hc
  · cases h

theorem le_ofDigitChars (digits : List Char) (value : Nat) :
    value ≤ Nat.ofDigitChars 10 digits value := by
  induction digits generalizing value with
  | nil => simp
  | cons c digits ih =>
    rw [Nat.ofDigitChars_cons]
    exact Nat.le_trans (by omega) (ih _)

/-- Digits spell a number within the limit, or the limit is passed. -/
theorem readDigits_eq {limit value : Nat} {digits : List Char} (beyond : IntegerFault)
    (hd : ∀ c ∈ digits, c.isDigit = true) (hv : value ≤ limit) :
    readDigits limit beyond value digits =
      if Nat.ofDigitChars 10 digits value ≤ limit then .ok (Nat.ofDigitChars 10 digits value)
      else .error beyond := by
  induction digits generalizing value with
  | nil => simp [readDigits, hv]
  | cons c digits ih =>
    have hc : digit? c = some (c.toNat - '0'.toNat) := digit?_of_isDigit (hd c List.mem_cons_self)
    have hnext : value * 10 + (c.toNat - '0'.toNat) = 10 * value + (c.toNat - '0'.toNat) := by
      omega
    rw [readDigits, hc, Nat.ofDigitChars_cons]
    simp only [hnext]
    split
    next hlt =>
      have hle := le_ofDigitChars digits (10 * value + (c.toNat - '0'.toNat))
      rw [if_neg (by omega)]
    next hge =>
      exact ih (fun d h => hd d (List.mem_cons_of_mem c h)) (by omega)

/-- Reading succeeds on digits only, and only within the limit. -/
theorem readDigits_eq_ok {limit value n : Nat} {beyond : IntegerFault} {text : List Char}
    (hv : value ≤ limit) (h : readDigits limit beyond value text = .ok n) :
    (∀ c ∈ text, c.isDigit = true) ∧ n = Nat.ofDigitChars 10 text value ∧ n ≤ limit := by
  have hd : ∀ c ∈ text, c.isDigit = true := by
    clear hv
    induction text generalizing value with
    | nil => simp
    | cons c text ih =>
      rw [readDigits] at h
      split at h
      · cases h
      next d hc =>
        simp only at h
        split at h
        · cases h
        · rintro e (_ | ⟨_, he⟩)
          · exact isDigit_of_digit? hc
          · exact ih h e he
  rw [readDigits_eq beyond hd hv] at h
  split at h
  next hle =>
    cases h
    exact ⟨hd, rfl, hle⟩
  · cases h

/-- A text that spells an integer: digits, after a sign or not. -/
def Spells (text : List Char) (value : Int) : Prop :=
  ∃ digits : List Char, digits ≠ [] ∧ (∀ c ∈ digits, c.isDigit = true) ∧
    ((text = digits ∨ text = '+' :: digits) ∧ value = Nat.ofDigitChars 10 digits 0 ∨
      text = '-' :: digits ∧ value = -(Nat.ofDigitChars 10 digits 0 : Int))

theorem readMagnitude_eq_ok_iff {limit n : Nat} {beyond : IntegerFault} {text : List Char} :
    readMagnitude limit beyond text = .ok n ↔
      text ≠ [] ∧ (∀ c ∈ text, c.isDigit = true) ∧ n = Nat.ofDigitChars 10 text 0 ∧
        n ≤ limit := by
  by_cases hne : text = []
  · simp [readMagnitude, hne]
  have he : text.isEmpty = false := by simpa using hne
  simp only [readMagnitude, he, Bool.false_eq_true, if_false]
  constructor
  · intro h
    exact ⟨hne, readDigits_eq_ok (Nat.zero_le limit) h⟩
  · rintro ⟨-, hd, rfl, hle⟩
    rw [readDigits_eq beyond hd (Nat.zero_le limit), if_pos hle]

/-- Text that carries no sign. -/
theorem readInt32_of_unsigned {c : Char} {rest : List Char} (hp : c ≠ '+') (hm : c ≠ '-') :
    readInt32 (c :: rest) =
      (readMagnitude largestInt32 .tooLarge (c :: rest)).map fun n : Nat => Int32.ofInt n := by
  rw [readInt32]
  · exact List.cons_ne_nil c rest
  · rintro _ ⟨⟩
    exact hp rfl
  · rintro _ ⟨⟩
    exact hm rfl

/-- The reader of each sign, in terms of the integer read. -/
theorem readMagnitude_map_eq_ok_iff {text : List Char} {n : Int32} :
    ((readMagnitude largestInt32 .tooLarge text).map (fun m : Nat => Int32.ofInt m) = .ok n ↔
      text ≠ [] ∧ (∀ c ∈ text, c.isDigit = true) ∧
        n.toInt = Nat.ofDigitChars 10 text 0) ∧
    ((readMagnitude largestNegative .tooSmall text).map (fun m : Nat => Int32.ofInt (-m)) = .ok n ↔
      text ≠ [] ∧ (∀ c ∈ text, c.isDigit = true) ∧
        n.toInt = -(Nat.ofDigitChars 10 text 0 : Int)) := by
  have hlow := n.le_toInt
  have hhigh := n.toInt_lt
  simp only [map_eq_ok_iff, readMagnitude_eq_ok_iff, largestInt32, largestNegative]
  constructor
  · constructor
    · rintro ⟨m, ⟨hne, hd, rfl, hle⟩, rfl⟩
      exact ⟨hne, hd, Int32.toInt_ofInt_of_le (by omega) (by omega)⟩
    · rintro ⟨hne, hd, hn⟩
      exact ⟨_, ⟨hne, hd, rfl, by omega⟩, by rw [← hn, Int32.ofInt_toInt]⟩
  · constructor
    · rintro ⟨m, ⟨hne, hd, rfl, hle⟩, rfl⟩
      exact ⟨hne, hd, Int32.toInt_ofInt_of_le (by omega) (by omega)⟩
    · rintro ⟨hne, hd, hn⟩
      exact ⟨_, ⟨hne, hd, rfl, by omega⟩, by rw [← hn, Int32.ofInt_toInt]⟩

/-- A text is read as the integer that it spells, and as nothing else. -/
theorem readInt32_eq_ok_iff {text : List Char} {n : Int32} :
    readInt32 text = .ok n ↔ Spells text n.toInt := by
  have hplus : Char.isDigit '+' = false := by decide
  have hminus : Char.isDigit '-' = false := by decide
  cases text with
  | nil =>
    constructor
    · nofun
    · rintro ⟨digits, hne, _, ⟨rfl | h, _⟩ | ⟨h, _⟩⟩
      · exact absurd rfl hne
      · cases h
      · cases h
  | cons c rest =>
    by_cases hp : c = '+'
    · subst hp
      rw [readInt32, readMagnitude_map_eq_ok_iff.1]
      constructor
      · rintro ⟨hne, hd, hn⟩
        exact ⟨rest, hne, hd, .inl ⟨.inr rfl, hn⟩⟩
      · rintro ⟨digits, hne, hd, ⟨rfl | h, hn⟩ | ⟨h, _⟩⟩
        · simp [hplus] at hd
        · cases h
          exact ⟨hne, hd, hn⟩
        · cases h
    by_cases hm : c = '-'
    · subst hm
      rw [readInt32, readMagnitude_map_eq_ok_iff.2]
      constructor
      · rintro ⟨hne, hd, hn⟩
        exact ⟨rest, hne, hd, .inr ⟨rfl, hn⟩⟩
      · rintro ⟨digits, hne, hd, ⟨rfl | h, _⟩ | ⟨h, hn⟩⟩
        · simp [hminus] at hd
        · cases h
        · cases h
          exact ⟨hne, hd, hn⟩
    rw [readInt32_of_unsigned hp hm, readMagnitude_map_eq_ok_iff.1]
    constructor
    · rintro ⟨hne, hd, hn⟩
      exact ⟨c :: rest, hne, hd, .inl ⟨.inl rfl, hn⟩⟩
    · rintro ⟨digits, hne, hd, ⟨rfl | h, hn⟩ | ⟨h, _⟩⟩
      · exact ⟨hne, hd, hn⟩
      · cases h
        exact absurd rfl hp
      · cases h
        exact absurd rfl hm

/-! ### Printed integers -/

theorem isDigit_of_mem_toDigits {n : Nat} {c : Char} (h : c ∈ Nat.toDigits 10 n) :
    c.isDigit = true :=
  Nat.isDigit_of_mem_toDigits (by decide) (by decide) h

theorem toList_toString_of_nonneg {n : Int} (h : 0 ≤ n) :
    (toString n).toList = Nat.toDigits 10 n.toNat := by
  rw [Int.toString_eq_repr, Int.repr_eq_if, if_pos h, Nat.toList_repr]

theorem toList_toString_of_neg {n : Int} (h : n < 0) :
    (toString n).toList = '-' :: Nat.toDigits 10 (-n).toNat := by
  rw [Int.toString_eq_repr, Int.repr_eq_if, if_neg (by omega), String.toList_append,
    Nat.toList_repr]
  rfl

/-- An integer is printed as a text that spells it. -/
theorem spells_toString (n : Int) : Spells (toString n).toList n := by
  rcases Int.lt_or_le n 0 with hn | hn
  · refine ⟨Nat.toDigits 10 (-n).toNat, Nat.toDigits_ne_nil, fun _ => isDigit_of_mem_toDigits,
      .inr ⟨toList_toString_of_neg hn, ?_⟩⟩
    rw [Nat.ofDigitChars_ten_toDigits]
    omega
  · refine ⟨Nat.toDigits 10 n.toNat, Nat.toDigits_ne_nil, fun _ => isDigit_of_mem_toDigits,
      .inl ⟨.inl (toList_toString_of_nonneg hn), ?_⟩⟩
    rw [Nat.ofDigitChars_ten_toDigits]
    omega

theorem toNat_of_isDigit {c : Char} (h : c.isDigit = true) :
    '0'.toNat ≤ c.toNat ∧ c.toNat ≤ '9'.toNat := by
  simp only [Char.isDigit, Bool.and_eq_true, decide_eq_true_eq] at h
  exact h

/-- The characters of a text that spells an integer are signs and digits, and these
stand between the plus sign and the last digit. -/
theorem Spells.mem {text : List Char} {value : Int} (h : Spells text value) {c : Char}
    (hc : c ∈ text) : '+'.toNat ≤ c.toNat ∧ c.toNat ≤ '9'.toNat := by
  obtain ⟨digits, _, hd, hform⟩ := h
  have hplus : '+'.toNat ≤ '0'.toNat := by decide
  have hdigit : c ∈ digits → '+'.toNat ≤ c.toNat ∧ c.toNat ≤ '9'.toNat :=
    fun hm => ⟨Nat.le_trans hplus (toNat_of_isDigit (hd c hm)).1, (toNat_of_isDigit (hd c hm)).2⟩
  rcases hform with ⟨rfl | rfl, _⟩ | ⟨rfl, _⟩
  · exact hdigit hc
  · rcases List.mem_cons.mp hc with rfl | hc
    · decide
    · exact hdigit hc
  · rcases List.mem_cons.mp hc with rfl | hc
    · decide
    · exact hdigit hc

theorem Spells.trimmed {text : List Char} {value : Int} (h : Spells text value) :
    Trimmed text := by
  apply trimmed_of_forall
  intro c hc
  obtain ⟨hl, hu⟩ := h.mem hc
  exact isBlank_of_visible (Nat.le_trans (by decide) hl) (Nat.le_trans hu (by decide))

end CrossStitch.Text
