import CrossStitch.Block.Basic

/-! Why reading with includes ends. An include replaces lines of one depth by any
number of lines of the next depth, so neither the number of lines nor the number
of includes still to come goes down. What does go down is the tally of the lines:
how many there are of depth 0, of depth 1 and so on up to the include limit, and
last how many there are in all, compared from the first count on. -/

namespace CrossStitch

/-- A total and `n` counts to be compared before it. -/
def Tally : Nat → Type
  | 0 => Nat
  | n + 1 => Nat × Tally n

/-- The first difference decides. -/
def Tally.Less : {n : Nat} → Tally n → Tally n → Prop
  | 0, a, b => Nat.lt a b
  | _ + 1, a, b => Prod.Lex Nat.lt Tally.Less a b

theorem Tally.wellFounded : (n : Nat) → WellFounded (Tally.Less (n := n))
  | 0 => Nat.lt_wfRel.wf
  | n + 1 => (Prod.lex ⟨Nat.lt, Nat.lt_wfRel.wf⟩ ⟨Tally.Less, Tally.wellFounded n⟩).wf

instance (n : Nat) : WellFoundedRelation (Tally n) := ⟨Tally.Less, Tally.wellFounded n⟩

theorem Tally.less_trans : {n : Nat} → {a b c : Tally n} → a.Less b → b.Less c → a.Less c
  | 0, _, _, _, hab, hbc => Nat.lt_trans hab hbc
  | _ + 1, (_, _), (_, _), (_, _), hab, hbc => by
    cases hab with
    | left _ _ h =>
      cases hbc with
      | left _ _ h' => exact .left _ _ (Nat.lt_trans h h')
      | right _ h' => exact .left _ _ h
    | right _ h =>
      cases hbc with
      | left _ _ h' => exact .left _ _ h'
      | right _ h' => exact .right _ (Tally.less_trans h h')

/-- How many lines have a depth. -/
def countDepth (depth : Nat) (lines : List SourceLine) : Nat :=
  lines.countP fun line => line.depth == depth

/-- The counts of the `n` depths from `first` on, and the number of lines. -/
def tallyFrom (lines : List SourceLine) : (n first : Nat) → Tally n
  | 0, _ => lines.length
  | n + 1, first => (countDepth first lines, tallyFrom lines n (first + 1))

/-- Fewer lines of one depth, and no more of the depths before it. -/
theorem tallyFrom_less_of_count {a b : List SourceLine} {depth : Nat} :
    (n first : Nat) → first ≤ depth → depth < first + n →
    (∀ e, e < depth → countDepth e a ≤ countDepth e b) →
    countDepth depth a < countDepth depth b →
    (tallyFrom a n first).Less (tallyFrom b n first)
  | 0, first, hf, hn, _, _ => absurd hn (by omega)
  | n + 1, first, hf, hn, hle, hlt => by
    show Prod.Lex _ _ (_, _) (_, _)
    rcases Nat.lt_or_eq_of_le hf with hd | hd
    · rcases Nat.lt_or_eq_of_le (hle first hd) with hc | hc
      · exact .left _ _ hc
      · rw [hc]
        exact .right _ (tallyFrom_less_of_count n (first + 1) hd (by omega) hle hlt)
    · exact .left _ _ (by rw [hd]; exact hlt)

/-- Fewer lines in all, and no more of any depth. -/
theorem tallyFrom_less_of_length {a b : List SourceLine}
    (hle : ∀ e, countDepth e a ≤ countDepth e b) (hlt : a.length < b.length) :
    (n first : Nat) → (tallyFrom a n first).Less (tallyFrom b n first)
  | 0, _ => hlt
  | n + 1, first => by
    show Prod.Lex _ _ (_, _) (_, _)
    rcases Nat.lt_or_eq_of_le (hle first) with hc | hc
    · exact .left _ _ hc
    · rw [hc]
      exact .right _ (tallyFrom_less_of_length hle hlt n (first + 1))

/-- The tally of lines under an include limit. -/
def tally (limit : Nat) (lines : List SourceLine) : Tally limit :=
  tallyFrom lines limit 0

/-- Taking a block off the front leaves a smaller tally. -/
theorem tally_rest_less (limit : Nat) (before middle rest : List SourceLine) (line : SourceLine) :
    (tally limit rest).Less (tally limit (before ++ line :: (middle ++ rest))) := by
  refine tallyFrom_less_of_length (fun e => ?_) ?_ limit 0
  · simp only [countDepth, List.countP_append, List.countP_cons]
    omega
  · simp only [List.length_append, List.length_cons]
    omega

/-- So does putting any lines of the next depth in its place, below the limit. -/
theorem tally_splice_less {limit : Nat} (before middle rest inserted : List SourceLine)
    (line : SourceLine) (hlimit : line.depth < limit)
    (hdepth : ∀ l ∈ inserted, l.depth = line.depth + 1) :
    (tally limit (inserted ++ rest)).Less
      (tally limit (before ++ line :: (middle ++ rest))) := by
  have hnone : ∀ e, e ≤ line.depth → countDepth e inserted = 0 := by
    intro e he
    rw [countDepth, List.countP_eq_zero]
    intro l hl
    have := hdepth l hl
    simp only [beq_iff_eq]
    omega
  refine tallyFrom_less_of_count limit 0 (Nat.zero_le line.depth) (by omega) ?_ ?_
  · intro e he
    have := hnone e (Nat.le_of_lt he)
    simp only [countDepth, List.countP_append, List.countP_cons] at this ⊢
    omega
  · have := hnone line.depth (Nat.le_refl _)
    simp only [countDepth, List.countP_append, List.countP_cons, beq_self_eq_true] at this ⊢
    simp only [if_true]
    omega

end CrossStitch
