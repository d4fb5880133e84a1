import CrossStitch.Colour.Table

/-! What the names in a colour table stand for. A table that is extended by a list or by a map
of names knows them before it knows its own, and the built-in table knows the flosses before the
keywords. -/

namespace CrossStitch

theorem lookup_eq_some_iff_mem {α β : Type} [BEq α] [LawfulBEq α] {entries : List (α × β)}
    (hd : (entries.map Prod.fst).Nodup) {key : α} {value : β} :
    entries.lookup key = some value ↔ (key, value) ∈ entries := by
  induction entries with
  | nil => simp
  | cons entry entries ih =>
    obtain ⟨hnew, hrest⟩ := List.nodup_cons.mp hd
    rw [List.lookup_cons, List.mem_cons]
    by_cases hkey : key = entry.1
    · have hout : (key, value) ∉ entries := fun h => hnew (hkey ▸ List.mem_map_of_mem h)
      subst hkey
      simp only [beq_self_eq_true, Option.some.injEq, or_iff_left hout, Prod.ext_iff, true_and]
      exact eq_comm
    · have hfirst : (key, value) ≠ entry := fun h => hkey (congrArg Prod.fst h)
      simp only [beq_false_of_ne hkey, ih hrest, or_iff_right hfirst]

theorem lookup_map_snd {α β γ : Type} [BEq α] (f : β → γ) (entries : List (α × β)) (key : α) :
    (entries.map fun entry => (entry.1, f entry.2)).lookup key = (entries.lookup key).map f := by
  induction entries with
  | nil => rfl
  | cons entry entries ih =>
    rw [List.map_cons, List.lookup_cons, List.lookup_cons, ih]
    split <;> rfl

theorem nodup_toList (names : Std.ExtTreeMap String String) :
    (names.toList.map Prod.fst).Nodup := by
  rw [Std.ExtTreeMap.map_fst_toList_eq_keys]
  exact Std.ExtTreeMap.nodup_keys

theorem lookup_toList (names : Std.ExtTreeMap String String) (name : String) :
    names.toList.lookup name = names[name]? := by
  refine Option.ext fun value => ?_
  rw [lookup_eq_some_iff_mem (nodup_toList names),
    Std.ExtTreeMap.mem_toList_iff_getElem?_eq_some]

namespace ColourTable

theorem resolve_insert (table : ColourTable) (name value other : String) :
    (table.insert name value).resolve other =
      if other = name then some value else table.resolve other := by
  simp only [resolve, insert, Std.ExtTreeMap.getElem?_insert, Std.compare_eq_iff_eq,
    @eq_comm _ name other]
  by_cases h : other = name
  · simp only [if_pos h]
  · simp only [if_neg h]
    rfl

/-- Names that are added come before those that were there. -/
theorem resolve_extend {names : List (String × String)} (hd : (names.map Prod.fst).Nodup)
    (table : ColourTable) (name : String) :
    (table.extend names).resolve name = (names.lookup name).or (table.resolve name) := by
  induction names generalizing table with
  | nil => rfl
  | cons entry names ih =>
    obtain ⟨hnew, hrest⟩ := List.nodup_cons.mp hd
    have hextend : table.extend (entry :: names) = (table.insert entry.1 entry.2).extend names :=
      rfl
    rw [hextend, ih hrest, resolve_insert, List.lookup_cons]
    by_cases h : name = entry.1
    · have hnone : names.lookup name = none := by
        rw [List.lookup_eq_none_iff]
        intro other hother
        refine bne_iff_ne.mpr fun hsame => hnew ?_
        rw [← h, hsame]
        exact List.mem_map_of_mem hother
      rw [hnone, if_pos h, h, beq_self_eq_true]
      rfl
    · rw [if_neg h, beq_false_of_ne h]

theorem resolve_extend_toList (table : ColourTable) (names : Std.ExtTreeMap String String)
    (name : String) :
    (table.extend names.toList).resolve name = (names[name]?).or (table.resolve name) := by
  rw [resolve_extend (nodup_toList names), lookup_toList]

theorem nodup_flossNames : (Colour.floss.map Prod.fst).Nodup := by decide

theorem resolve_builtin (name : String) :
    builtin.resolve name =
      ((Colour.floss.lookup name).map Colour.Rgb.css).or
        ((Colour.keyword? name).map Colour.Rgb.css) := by
  have hnames : ((Colour.floss.map fun entry => (entry.1, entry.2.css)).map Prod.fst).Nodup := by
    rw [List.map_map]
    exact nodup_flossNames
  have hkeyword : empty.withKeywords.resolve name =
      (Colour.keyword? name).map Colour.Rgb.css := by
    simp [resolve, empty, withKeywords]
  rw [builtin, resolve_extend hnames, lookup_map_snd, hkeyword]

end ColourTable

end CrossStitch
