import CrossStitch.Render.Warning
import Mathlib.Algebra.BigOperators.Group.List.Lemmas
import Mathlib.Algebra.Ring.Nat
import Mathlib.Data.List.Induction
import Mathlib.Data.String.Basic

/-! What a summary of warnings says. It has each message that was raised, once, with the number
of times that it was. The messages are sorted, so the order in which they were raised does not
matter. -/

namespace CrossStitch.Warnings

/-- The list has each of the messages once, in increasing order, with how often it occurs. -/
structure Summarises (summary : List (String × Nat)) (messages : List String) : Prop where
  mem_iff : ∀ message n,
    (message, n) ∈ summary ↔ message ∈ messages ∧ n = messages.count message
  increasing : summary.Pairwise fun entry later => entry.1 < later.1
  total : (summary.map Prod.snd).sum = messages.length

/-- The warnings after the messages have been pushed in turn. -/
def pushed (messages : List String) : Warnings :=
  messages.foldl push none

theorem counts_concat (messages : List String) (message : String) :
    counts (messages ++ [message]) =
      (counts messages).insert message ((counts messages).getD message 0 + 1) := by
  rw [counts, List.foldl_append]
  rfl

theorem getElem?_counts (messages : List String) (message : String) :
    (counts messages)[message]? =
      if message ∈ messages then some (messages.count message) else .none := by
  induction messages using List.reverseRecOn with
  | nil => simp [counts]
  | append_singleton messages last ih =>
    rw [counts_concat, Std.ExtTreeMap.getElem?_insert, Std.ExtTreeMap.getD_eq_getD_getElem?]
    by_cases h : last = message
    · subst h
      rw [ih]
      by_cases hm : last ∈ messages
      · simp [hm]
      · simp [hm, List.count_eq_zero_of_not_mem hm]
    · simp [h, Ne.symm h, ih]

theorem mem_summary_iff {warnings : Warnings} {message : String} {n : Nat} :
    (message, n) ∈ warnings.summary ↔
      message ∈ warnings.messages ∧ n = warnings.messages.count message := by
  rw [summary, Std.ExtTreeMap.mem_toList_iff_getElem?_eq_some, getElem?_counts]
  simp [eq_comm]

theorem increasing_summary (warnings : Warnings) :
    warnings.summary.Pairwise fun entry later => entry.1 < later.1 :=
  Std.ExtTreeMap.ordered_keys_toList.imp compare_lt_iff_lt.mp

/-- Every message that was raised is counted in one entry. -/
theorem sum_summary (warnings : Warnings) :
    (warnings.summary.map Prod.snd).sum = warnings.length := by
  have hkeys : (warnings.summary.map Prod.fst).Perm warnings.messages.dedup := by
    have hnodup : (warnings.summary.map Prod.fst).Nodup :=
      List.pairwise_map.mpr ((increasing_summary warnings).imp fun hlt => hlt.ne)
    rw [List.perm_ext_iff_of_nodup hnodup (List.nodup_dedup _)]
    simp [mem_summary_iff]
  have hcounts : warnings.summary.map Prod.snd =
      (warnings.summary.map Prod.fst).map fun message => warnings.messages.count message := by
    rw [List.map_map]
    exact List.map_congr_left fun entry hentry => (mem_summary_iff.mp hentry).2
  rw [hcounts, (hkeys.map _).sum_eq, List.sum_map_count_dedup_eq_length]
  rfl

theorem summarises_summary (warnings : Warnings) :
    Summarises warnings.summary warnings.messages :=
  ⟨fun _ _ => mem_summary_iff, increasing_summary warnings, sum_summary warnings⟩

theorem Summarises.nodup {summary : List (String × Nat)} {messages : List String}
    (h : Summarises summary messages) : summary.Nodup := by
  refine h.increasing.imp ?_
  rintro entry _ hlt rfl
  exact lt_irrefl _ hlt

theorem nodup_summary (warnings : Warnings) : warnings.summary.Nodup :=
  (summarises_summary warnings).nodup

/-- There is just one summary of messages in any order. -/
theorem Summarises.unique {summary other : List (String × Nat)} {messages others : List String}
    (h : Summarises summary messages) (h' : Summarises other others)
    (hperm : messages.Perm others) : summary = other := by
  have hsame : summary.Perm other := by
    rw [List.perm_ext_iff_of_nodup h.nodup h'.nodup]
    rintro ⟨message, n⟩
    rw [h.mem_iff, h'.mem_iff, hperm.mem_iff, hperm.count_eq]
  exact hsame.eq_of_pairwise (fun _ _ _ _ hab hba => absurd hba hab.asymm) h.increasing
    h'.increasing

theorem messages_pushed (messages : List String) : (pushed messages).messages = messages := by
  induction messages using List.reverseRecOn with
  | nil => rfl
  | append_singleton messages last ih =>
    rw [pushed, List.foldl_concat]
    exact congrArg (· ++ [last]) ih

end CrossStitch.Warnings
