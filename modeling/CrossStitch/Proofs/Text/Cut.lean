import CrossStitch.Text.Cut

/-! Where a text is cut. A cut is an occurrence of the separator, there is one
exactly when the separator occurs, and it is the given one if the separator does
not occur earlier. An occurrence could start earlier and reach into the given one.
That is excluded by looking at the text before it together with all but the last
character of the separator, or once and for all if that last character occurs
nowhere else in the separator. -/

namespace CrossStitch.Text

theorem following?_eq_some_iff {start text after : List Char} :
    following? start text = some after ↔ text = start ++ after := by
  induction start generalizing text with
  | nil => simp [following?]
  | cons s start ih =>
    cases text with
    | nil => simp [following?]
    | cons c text =>
      by_cases h : s = c
      · simp [following?, h, ih]
      · simp [following?, h, Ne.symm h]

theorem eq_append_of_cut? {separator text before after : List Char}
    (h : cut? separator text = some (before, after)) : text = before ++ separator ++ after := by
  induction text generalizing before with
  | nil => simp [cut?] at h
  | cons c rest ih =>
    rw [cut?] at h
    split at h
    next after' hf =>
      cases h
      simpa using following?_eq_some_iff.mp hf
    next hf =>
      obtain ⟨parts, hp, he⟩ := Option.map_eq_some_iff.mp h
      cases he
      simp [ih hp]

/-- A separator occurs somewhere exactly when the text can be cut at it. -/
theorem occurs_iff {separator text : List Char} (hs : separator ≠ []) :
    occurs separator text = true ↔ separator <:+: text := by
  induction text with
  | nil => simp [occurs, cut?, hs]
  | cons c rest ih =>
    rw [List.infix_cons_iff, ← ih, occurs, cut?]
    split
    next after hf =>
      simp [following?_eq_some_iff.mp hf]
    next hf =>
      have hn : ¬ separator <+: c :: rest := by
        rintro ⟨after, ha⟩
        rw [following?_eq_some_iff.mpr ha.symm] at hf
        cases hf
      simp [hn, occurs]

theorem occurs_eq_false_iff {separator text : List Char} (hs : separator ≠ []) :
    occurs separator text = false ↔ ¬ separator <:+: text := by
  rw [← occurs_iff hs, Bool.not_eq_true]

/-- The cut is at the first occurrence. -/
theorem cut?_append {separator before : List Char} (hs : separator ≠ [])
    (hb : ¬ separator <:+: before ++ separator.dropLast) (after : List Char) :
    cut? separator (before ++ separator ++ after) = some (before, after) := by
  induction before with
  | nil =>
    obtain ⟨s, rest, rfl⟩ := List.exists_cons_of_ne_nil hs
    have hf : following? (s :: rest) (s :: rest ++ after) = some after :=
      following?_eq_some_iff.mpr rfl
    rw [List.nil_append, List.cons_append, cut?, ← List.cons_append, hf]
  | cons c before ih =>
    have hn : following? separator (c :: (before ++ separator ++ after)) = none := by
      rw [Option.eq_none_iff_forall_ne_some]
      intro text ht
      -- the occurrence would end before the last character of the separator
      refine hb (List.IsPrefix.isInfix ?_)
      have hp : separator <+: c :: (before ++ separator ++ after) :=
        ⟨text, (following?_eq_some_iff.mp ht).symm⟩
      have hq : c :: before ++ separator.dropLast <+: c :: (before ++ separator ++ after) := by
        have hd : separator.dropLast <+: separator := List.dropLast_prefix separator
        simpa using hd.trans (List.prefix_append separator after)
      apply List.prefix_of_prefix_length_le hp hq
      simp only [List.cons_append, List.length_cons, List.length_append, List.length_dropLast]
      omega
    rw [List.cons_append, List.cons_append, cut?, hn, ih]
    · rfl
    · exact fun h => hb (List.infix_cons h)

/-- What lies before a cut holds no occurrence, not even one that reaches into
the separator. -/
theorem not_infix_of_cut? {separator text before after : List Char} (hs : separator ≠ [])
    (h : cut? separator text = some (before, after)) :
    ¬ separator <:+: before ++ separator.dropLast := by
  induction text generalizing before with
  | nil => simp [cut?] at h
  | cons c rest ih =>
    rw [cut?] at h
    split at h
    next after' hf =>
      cases h
      intro hi
      have := hi.length_le
      have := List.length_pos_iff.mpr hs
      simp only [List.nil_append, List.length_dropLast] at *
      omega
    next hf =>
      obtain ⟨parts, hp, he⟩ := Option.map_eq_some_iff.mp h
      cases he
      rw [List.cons_append, List.infix_cons_iff]
      rintro (hi | hi)
      · have hr := eq_append_of_cut? hp
        have hpre : separator <+: c :: rest := by
          apply hi.trans
          have hd : separator.dropLast <+: separator := List.dropLast_prefix separator
          rw [hr, List.append_assoc, List.prefix_cons_inj, List.prefix_append_right_inj]
          exact hd.trans (List.prefix_append _ _)
        obtain ⟨after', ha⟩ := hpre
        rw [following?_eq_some_iff.mpr ha.symm] at hf
        cases hf
      · exact ih hp hi

/-- A text can be cut in one place only. -/
theorem cut?_eq_some_iff {separator text before after : List Char} (hs : separator ≠ []) :
    cut? separator text = some (before, after) ↔
      text = before ++ separator ++ after ∧ ¬ separator <:+: before ++ separator.dropLast := by
  constructor
  · intro h
    exact ⟨eq_append_of_cut? h, not_infix_of_cut? hs h⟩
  · rintro ⟨rfl, hb⟩
    exact cut?_append hs hb after

/-- Two parts are what lies before and after an occurrence that is the first and
the last one. -/
theorem pair?_eq_some_iff {separator text before after : List Char} (hs : separator ≠ []) :
    pair? separator text = some (before, after) ↔
      text = before ++ separator ++ after ∧ ¬ separator <:+: before ++ separator.dropLast ∧
        ¬ separator <:+: after := by
  rw [← and_assoc, ← cut?_eq_some_iff hs, ← occurs_eq_false_iff hs, pair?]
  split
  next b a hc =>
    cases ho : occurs separator a
    · simp only [hc, Bool.false_eq_true, if_false, Option.some.injEq, Prod.mk.injEq]
      constructor
      · rintro ⟨rfl, rfl⟩
        exact ⟨⟨rfl, rfl⟩, ho⟩
      · exact And.left
    · simp only [hc, if_true, reduceCtorEq, false_iff, Option.some.injEq, Prod.mk.injEq]
      rintro ⟨⟨rfl, rfl⟩, hf⟩
      simp [ho] at hf
  next hc => simp [hc]

/-- A separator whose last character occurs in it only once cannot overlap itself. -/
theorem infix_of_infix_append_dropLast {start before : List Char} {last : Char}
    (hl : last ∉ start) (h : start ++ [last] <:+: before ++ start) :
    start ++ [last] <:+: before := by
  rcases List.infix_append_iff_ne_nil.mp h with h | h | ⟨front, back, _, hb, he, _, hp⟩
  · exact h
  · have := h.length_le
    rw [List.length_append, List.length_singleton] at this
    omega
  · have hm : last ∈ back := by
      have hg := congrArg List.getLast? he
      rw [List.getLast?_concat, List.getLast?_append, List.getLast?_eq_some_getLast hb] at hg
      cases hg
      exact List.getLast_mem hb
    exact absurd (hp.subset hm) hl

end CrossStitch.Text
