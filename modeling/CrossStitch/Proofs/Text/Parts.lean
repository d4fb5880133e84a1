import CrossStitch.Proofs.Text.Cut
import Mathlib.Data.List.Basic

/-! The parts of a text. A text falls into parts at the occurrences of a separator, which are taken
from the left and do not overlap. It does so in one way only, and if there are two parts they are
the ones that `pair?` finds. -/

namespace CrossStitch.Text

/-- The parts between the occurrences of the separator. As in a cut, no occurrence may reach from a
part into the separator behind it. -/
inductive FallsInto (separator : List Char) : List Char → List (List Char) → Prop
  | whole {text : List Char} (h : ¬ separator <:+: text) : FallsInto separator text [text]
  | cut {before after : List Char} {parts : List (List Char)}
      (hb : ¬ separator <:+: before ++ separator.dropLast) (h : FallsInto separator after parts) :
      FallsInto separator (before ++ separator ++ after) (before :: parts)

variable {separator text : List Char}

theorem exists_fallsInto (hs : separator ≠ []) (text : List Char) :
    ∃ parts, FallsInto separator text parts := by
  induction hn : text.length using Nat.strongRecOn generalizing text with
  | ind n ih =>
    cases hc : cut? separator text with
    | none =>
      have ho : occurs separator text = false := by rw [occurs, hc, Option.isSome_none]
      exact ⟨_, .whole ((occurs_eq_false_iff hs).mp ho)⟩
    | some found =>
      obtain ⟨before, after⟩ := found
      obtain ⟨rfl, hb⟩ := (cut?_eq_some_iff hs).mp hc
      have hshort : after.length < n := by
        have := List.length_pos_iff.mpr hs
        rw [List.length_append, List.length_append] at hn
        omega
      obtain ⟨parts, hp⟩ := ih _ hshort after rfl
      exact ⟨before :: parts, .cut hb hp⟩

theorem FallsInto.unique (hs : separator ≠ []) {parts parts' : List (List Char)}
    (h : FallsInto separator text parts) (h' : FallsInto separator text parts') :
    parts = parts' := by
  induction h generalizing parts' with
  | whole hnone =>
    cases h' with
    | whole => rfl
    | cut => exact absurd (List.infix_append _ _ _) hnone
  | @cut before after parts hb _ ih =>
    -- both ways begin with the same cut
    have hfirst := cut?_append hs hb after
    generalize htext : before ++ separator ++ after = text at h' hfirst
    cases h' with
    | whole hnone => exact absurd (htext ▸ List.infix_append _ _ _) hnone
    | cut hb' hrest =>
      cases hfirst.symm.trans (cut?_append hs hb' _)
      rw [ih hrest]

theorem pair?_eq_some_iff_fallsInto (hs : separator ≠ []) {before after : List Char} :
    pair? separator text = some (before, after) ↔ FallsInto separator text [before, after] := by
  rw [pair?_eq_some_iff hs]
  constructor
  · rintro ⟨rfl, hb, ha⟩
    exact .cut hb (.whole ha)
  · intro h
    cases h with
    | cut hb hrest =>
      cases hrest with
      | whole ha => exact ⟨rfl, hb, ha⟩
      | cut _ hnone => cases hnone

/-- A text that `pair?` finds no two parts in has fewer or more of them. -/
theorem pair?_eq_none_iff_fallsInto (hs : separator ≠ []) :
    pair? separator text = none ↔ ∃ parts, FallsInto separator text parts ∧ parts.length ≠ 2 := by
  obtain ⟨parts, hp⟩ := exists_fallsInto hs text
  constructor
  · intro hnone
    refine ⟨parts, hp, fun htwo => ?_⟩
    obtain ⟨before, after, rfl⟩ := List.length_eq_two.mp htwo
    cases hnone.symm.trans ((pair?_eq_some_iff_fallsInto hs).mpr hp)
  · rintro ⟨others, hothers, hlength⟩
    rw [Option.eq_none_iff_forall_ne_some]
    rintro ⟨before, after⟩ hpair
    cases hothers.unique hs ((pair?_eq_some_iff_fallsInto hs).mp hpair)
    exact hlength rfl

end CrossStitch.Text
