import FormEngine.Json.Value
import Mathlib.Data.List.Nodup
/-!
# Tables with one value for each key

A table is a list of entries, of which a lookup takes the first for its key. Assigning a value leaves
the order of the keys alone, and dropping the entries of a key leaves the others alone, so a table
that has no key twice keeps to that.
-/

namespace FormEngine

namespace Json

/-- A key that is not in the table goes to its end. -/
theorem assign_of_notMem {α : Type} {key : String} {value : α} {entries : List (String × α)}
    (h : key ∉ entries.map Prod.fst) : assign key value entries = entries ++ [(key, value)] := by
  induction entries with
  | nil => rfl
  | cons e entries ih =>
    simp only [List.map_cons, List.mem_cons, not_or] at h
    simp [assign, Ne.symm h.1, ih h.2]

/-- A value goes under its key in place of an earlier one, and otherwise to the end. -/
theorem keys_assign {α : Type} (key : String) (value : α) (entries : List (String × α)) :
    (assign key value entries).map Prod.fst =
      if key ∈ entries.map Prod.fst then entries.map Prod.fst
      else entries.map Prod.fst ++ [key] := by
  induction entries with
  | nil => simp [assign]
  | cons e entries ih =>
    unfold assign
    by_cases hkey : e.1 = key
    · simp [hkey]
    · rw [if_neg hkey, List.map_cons, ih]
      by_cases hmem : key ∈ entries.map Prod.fst
      · simp [hmem]
      · simp [hmem, Ne.symm hkey]

theorem nodup_assign {α : Type} {entries : List (String × α)} (h : (entries.map Prod.fst).Nodup)
    (key : String) (value : α) : ((assign key value entries).map Prod.fst).Nodup := by
  rw [keys_assign]
  split
  · exact h
  · rename_i hnew
    rw [← List.concat_eq_append]
    exact h.concat hnew

theorem mem_assign {α : Type} {key : String} {value : α} {entries : List (String × α)}
    {e : String × α} (h : e ∈ assign key value entries) : e = (key, value) ∨ e ∈ entries := by
  induction entries with
  | nil => exact .inl (List.mem_singleton.1 h)
  | cons e' entries ih =>
    unfold assign at h
    split at h
    · rename_i hkey
      rcases List.mem_cons.1 h with rfl | h
      · exact .inl (by rw [hkey])
      · exact .inr (List.mem_cons_of_mem _ h)
    · rcases List.mem_cons.1 h with rfl | h
      · exact .inr List.mem_cons_self
      · exact (ih h).imp_right (List.mem_cons_of_mem _)

end Json

section Lookup

variable {α : Type} {key : String} {a : α} {xs : List (String × α)}

/-- A table with a value assigned gives that value for its key and the old ones for the others. -/
theorem lookup_assign (k : String) :
    (Json.assign key a xs).lookup k = if k = key then some a else xs.lookup k := by
  induction xs with
  | nil =>
    rw [Json.assign, List.lookup_cons]
    by_cases hk : k = key
    · rw [if_pos hk, beq_iff_eq.2 hk]
    · rw [if_neg hk, beq_eq_false_iff_ne.2 hk]
  | cons e xs ih =>
    obtain ⟨k', v⟩ := e
    rw [Json.assign]
    by_cases hkey : k' = key
    · subst hkey
      rw [if_pos rfl, List.lookup_cons, List.lookup_cons]
      by_cases hk : k = k'
      · rw [if_pos hk, beq_iff_eq.2 hk]
      · rw [if_neg hk, beq_eq_false_iff_ne.2 hk]
    · rw [if_neg hkey, List.lookup_cons, List.lookup_cons, ih]
      by_cases hk : k = k'
      · subst hk
        simp only [beq_self_eq_true, if_neg hkey]
      · rw [beq_eq_false_iff_ne.2 hk]

/-- An entry that is the only one for its key is found. -/
theorem lookup_eq_some_iff_mem (h : (xs.map Prod.fst).Nodup) :
    xs.lookup key = some a ↔ (key, a) ∈ xs := by
  induction xs with
  | nil => simp
  | cons e xs ih =>
    obtain ⟨k, v⟩ := e
    rw [List.map_cons, List.nodup_cons] at h
    rw [List.lookup_cons, List.mem_cons, Prod.mk.injEq]
    by_cases hk : key = k
    · subst hk
      have hnot : (key, a) ∉ xs := fun hmem => h.1 (List.mem_map.2 ⟨_, hmem, rfl⟩)
      simp [hnot, eq_comm]
    · rw [beq_eq_false_iff_ne.2 hk]
      simp [hk, ih h.2]

theorem lookup_eq_none_iff_notMem : xs.lookup key = none ↔ key ∉ xs.map Prod.fst := by
  rw [List.lookup_eq_none_iff, List.mem_map, not_exists]
  refine forall_congr' fun e => ?_
  rw [bne_iff_ne, not_and, ne_comm]

/-- An entry at the end is found when none before it has its key. -/
theorem lookup_concat (k : String) :
    (xs ++ [(key, a)]).lookup k = (xs.lookup k).or (if k = key then some a else none) := by
  rw [List.lookup_append, List.lookup_cons, List.lookup_nil]
  by_cases hk : k = key
  · rw [beq_iff_eq.2 hk, if_pos hk]
  · rw [beq_eq_false_iff_ne.2 hk, if_neg hk]

/-- Without the entries of a key the others are found as before. -/
theorem lookup_filter_ne (k : String) :
    (xs.filter fun e => e.1 != key).lookup k = if k = key then none else xs.lookup k := by
  induction xs with
  | nil => simp
  | cons e xs ih =>
    obtain ⟨k', v⟩ := e
    by_cases hkey : k' = key
    · subst hkey
      rw [List.filter_cons_of_neg (by simp), ih, List.lookup_cons]
      by_cases hk : k = k'
      · rw [if_pos hk, if_pos hk]
      · rw [if_neg hk, if_neg hk, beq_eq_false_iff_ne.2 hk]
    · rw [List.filter_cons_of_pos (by simpa using hkey), List.lookup_cons, List.lookup_cons, ih]
      by_cases hk : k = k'
      · subst hk
        simp only [beq_self_eq_true, if_neg hkey]
      · rw [beq_eq_false_iff_ne.2 hk]

end Lookup

end FormEngine
