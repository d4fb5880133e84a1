import CrossStitch.Text.Blank
import Mathlib.Data.List.TakeWhile

/-! What trimming does. The result has no blank at either end, and a text of
that kind is left as it is. Trimming only takes characters off the ends, so
whatever does not occur in a text does not occur in the trimmed text. -/

namespace CrossStitch.Text

/-- Neither the first nor the last character is blank. -/
def Trimmed (text : List Char) : Prop :=
  (∀ c ∈ text.head?, isBlank c = false) ∧ ∀ c ∈ text.getLast?, isBlank c = false

instance (text : List Char) : Decidable (Trimmed text) :=
  decidable_of_iff
    ((text.head?.all fun c => !isBlank c) = true ∧ (text.getLast?.all fun c => !isBlank c) = true)
    (by simp [Trimmed, Option.all_eq_true])

theorem trimmed_reverse {text : List Char} (h : Trimmed text) : Trimmed text.reverse := by
  simpa [Trimmed, and_comm] using h

/-- A text that starts and ends with characters that are not blank. -/
theorem trimmed_cons_append {first last : Char} (middle : List Char)
    (hf : isBlank first = false) (hl : isBlank last = false) :
    Trimmed (first :: (middle ++ [last])) := by
  refine ⟨by simpa using hf, ?_⟩
  rw [← List.cons_append, List.getLast?_concat]
  simpa using hl

theorem trimmed_of_forall {text : List Char} (h : ∀ c ∈ text, isBlank c = false) :
    Trimmed text :=
  ⟨fun c hc => h c (List.mem_of_head? hc), fun c hc => h c (List.mem_of_getLast? hc)⟩

/-- The visible characters of ASCII are not blank. -/
theorem isBlank_of_visible {c : Char} (hl : '!'.toNat ≤ c.toNat) (hu : c.toNat ≤ '~'.toNat) :
    isBlank c = false := by
  have hlo : 33 ≤ c.toNat := hl
  have hhi : c.toNat ≤ 126 := hu
  simp [isBlank, blankRanges]
  omega

theorem dropWhile_isBlank_eq_self {text : List Char} (h : ∀ c ∈ text.head?, isBlank c = false) :
    text.dropWhile isBlank = text := by
  cases text with
  | nil => rfl
  | cons c rest => simp [h c rfl]

theorem head?_dropWhile_isBlank (text : List Char) :
    ∀ c ∈ (text.dropWhile isBlank).head?, isBlank c = false := by
  intro c hc
  have h := List.head?_dropWhile_not isBlank text
  rw [Option.mem_def.mp hc] at h
  simpa using h

theorem trim_eq_self {text : List Char} (h : Trimmed text) : trim text = text := by
  rw [trim, trimLeft, dropWhile_isBlank_eq_self h.1, trimRight,
    dropWhile_isBlank_eq_self (trimmed_reverse h).1, List.reverse_reverse]

theorem trimLeft_isSuffix (text : List Char) : trimLeft text <:+ text :=
  List.dropWhile_suffix isBlank

theorem trimRight_isPrefix (text : List Char) : trimRight text <+: text := by
  have h : text.reverse.dropWhile isBlank <:+ text.reverse := List.dropWhile_suffix isBlank
  rwa [← List.reverse_prefix, List.reverse_reverse] at h

theorem trim_isInfix (text : List Char) : trim text <:+: text :=
  (trimRight_isPrefix _).isInfix.trans (trimLeft_isSuffix text).isInfix

theorem trimmed_trim (text : List Char) : Trimmed (trim text) := by
  constructor
  · intro c hc
    apply head?_dropWhile_isBlank text
    -- what is left of a text starts as the text does
    obtain ⟨taken, ht⟩ := trimRight_isPrefix (trimLeft text)
    rw [← trimLeft, ← ht, List.head?_append, Option.mem_def, Option.or_eq_some_iff]
    exact .inl hc
  · intro c hc
    apply head?_dropWhile_isBlank (trimLeft text).reverse
    simpa [trim, trimRight] using hc

/-- Nothing but blanks is trimmed off. -/
theorem eq_append_trim (text : List Char) :
    ∃ trail, text = text.takeWhile isBlank ++ trim text ++ trail ∧
      ∀ c ∈ trail, isBlank c = true := by
  refine ⟨((trimLeft text).reverse.takeWhile isBlank).reverse, ?_, fun c hc => ?_⟩
  · rw [trim, trimRight, List.append_assoc, ← List.reverse_append, List.takeWhile_append_dropWhile,
      List.reverse_reverse, trimLeft, List.takeWhile_append_dropWhile]
  · exact List.mem_takeWhile_imp (List.mem_reverse.mp hc)

/-- How many blanks stand before the first character that is not blank. -/
def indent (text : List Char) : Nat :=
  (text.takeWhile isBlank).length

/-- If no blank is left, the characters that are not blank are those that are left, and trimming
moves each of them by the indent. -/
theorem getElem?_trim_iff {text : List Char} (h : ∀ c ∈ trim text, isBlank c = false) {n : Nat}
    {c : Char} :
    (trim text)[n]? = some c ↔ text[indent text + n]? = some c ∧ isBlank c = false := by
  obtain ⟨trail, htext, htrail⟩ := eq_append_trim text
  rw [List.append_assoc] at htext
  have hshift : text[indent text + n]? = (trim text ++ trail)[n]? := by
    calc text[indent text + n]?
        = (text.takeWhile isBlank ++ (trim text ++ trail))[indent text + n]? := by rw [← htext]
      _ = (trim text ++ trail)[n]? := by
          rw [indent, List.getElem?_append_right (Nat.le_add_right _ n), Nat.add_sub_cancel_left]
  rw [hshift]
  rcases Nat.lt_or_ge n (trim text).length with hn | hn
  · rw [List.getElem?_append_left hn]
    exact ⟨fun hc => ⟨hc, h c (List.mem_of_getElem? hc)⟩, And.left⟩
  · rw [List.getElem?_eq_none hn, List.getElem?_append_right hn]
    refine ⟨nofun, ?_⟩
    rintro ⟨hc, hvisible⟩
    rw [htrail c (List.mem_of_getElem? hc)] at hvisible
    cases hvisible

end CrossStitch.Text
