import Mathlib.Data.List.Nodup

/-!
# Things with keys of their own

In a list of things that have distinct keys, each of them is found by its key. In a table, where the
first entry of a key counts, taking all entries of one key away changes nothing for the others, and
so does changing them.
-/

namespace ObliviousRelay

/-- **Each thing is found by its key**, where no two have the same one. -/
theorem find?_of_nodup {α κ : Type} [DecidableEq κ] {key : α → κ} {xs : List α} {x : α}
    (hnodup : (xs.map key).Nodup) (hx : x ∈ xs) : xs.find? (key · = key x) = some x := by
  obtain ⟨before, after, rfl⟩ := List.append_of_mem hx
  rw [List.map_append, List.map_cons, List.nodup_append] at hnodup
  -- Nothing in front has the key, so the search stops at this thing.
  have hbefore : ∀ y ∈ before, key y ≠ key x := fun y hy =>
    hnodup.2.2 _ (List.mem_map_of_mem hy) _ List.mem_cons_self
  rw [List.find?_append, List.find?_eq_none.mpr (by simpa using hbefore)]
  simp

/-- What a table without the entries of one key has for each key. -/
theorem lookup_filter_ne {α κ : Type} [BEq κ] [LawfulBEq κ] [DecidableEq κ]
    (table : List (κ × α)) (gone key : κ) :
    (table.filter (·.1 ≠ gone)).lookup key = if key = gone then none else table.lookup key := by
  induction table with
  | nil => simp
  | cons entry rest ih =>
    obtain ⟨k, a⟩ := entry
    by_cases hgone : k = gone
    -- The entry is one that goes.
    · rw [List.filter_cons_of_neg (by simpa using hgone), ih]
      by_cases hkey : key = gone
      · rw [if_pos hkey, if_pos hkey]
      · have hne : (key == k) = false := beq_eq_false_iff_ne.mpr (hgone ▸ hkey)
        rw [if_neg hkey, if_neg hkey, List.lookup_cons, hne]
    -- The entry stays, and it answers for its own key, which is not the one that goes.
    · rw [List.filter_cons_of_pos (by simpa using hgone), List.lookup_cons, List.lookup_cons, ih]
      by_cases hkey : key = gone
      · have hne : (key == k) = false := beq_eq_false_iff_ne.mpr fun h => hgone (h ▸ hkey)
        rw [if_pos hkey, if_pos hkey, hne]
      · rw [if_neg hkey, if_neg hkey]

/-- What a table has for each key, where the entries of one key were changed. -/
theorem lookup_map_of_key {α κ : Type} [BEq κ] [LawfulBEq κ] [DecidableEq κ]
    (table : List (κ × α)) (changed key : κ) (a : α) :
    (table.map fun entry => if entry.1 = changed then (changed, a) else entry).lookup key =
      if key = changed then (table.lookup key).map fun _ => a else table.lookup key := by
  induction table with
  | nil => simp
  | cons entry rest ih =>
    obtain ⟨k, b⟩ := entry
    rw [List.map_cons, List.lookup_cons, List.lookup_cons, ih]
    by_cases hchanged : k = changed
    · -- The entry is the one that changes.
      subst hchanged
      rw [if_pos rfl]
      by_cases hkey : key = k
      · subst hkey
        simp
      · have hne : (key == k) = false := beq_eq_false_iff_ne.mpr hkey
        rw [hne, if_neg hkey]
    -- The entry keeps its value, and may be the one that is asked for.
    · rw [if_neg hchanged]
      by_cases hkey : key = k
      · subst hkey
        simp [hchanged]
      · have hne : (key == k) = false := beq_eq_false_iff_ne.mpr hkey
        rw [hne]

end ObliviousRelay
