import FormEngine.State.Store
import Mathlib.Data.List.Nodup
/-!
# Shared states and their users

The table of shared states of a store has a row for each static key that some dynamic state belongs
to, with the number of these and one text. Holding a key counts one user more, and releasing it one
less; the row comes with the first user and goes with the last. A release of a key that has users
finds a row whose number is not zero, so it can be counted down.
-/

namespace FormEngine.SharedState

/-- The rows count users: a key with users has one row, with their number and the text of the key,
and a key without users has none. -/
structure Tallies (rows : List (String × SharedState)) (users : String → Nat)
    (text : String → String) : Prop where
  nodup : (rows.map Prod.fst).Nodup
  lookup : ∀ key, rows.lookup key =
    if users key = 0 then none else some { encoded := text key, users := users key }

/-- Without users there are no rows. -/
theorem tallies_nil (text : String → String) : Tallies [] (fun _ => 0) text :=
  ⟨List.nodup_nil, fun _ => rfl⟩

/-- A row of another key is passed over. -/
theorem lookup_row_of_ne {key other : String} (h : other ≠ key) (row : SharedState)
    (rows : List (String × SharedState)) : List.lookup other ((key, row) :: rows) = rows.lookup other := by
  have hne : (other == key) = false := by simpa using h
  rw [List.lookup_cons, hne]

/-! ## Holding -/

theorem lookup_hold (key encoded other : String) (rows : List (String × SharedState)) :
    (hold key encoded rows).lookup other =
      if other = key then
        some (match rows.lookup key with
          | none => { encoded, users := 1 }
          | some s => { s with users := s.users + 1 })
      else rows.lookup other := by
  induction rows with
  | nil => by_cases heq : other = key <;> simp [hold, heq]
  | cons row rows ih =>
    obtain ⟨k, s⟩ := row
    unfold hold
    by_cases hkey : k = key
    · subst hkey
      by_cases heq : other = k
      · simp [heq]
      · rw [if_pos rfl, if_neg heq, lookup_row_of_ne heq, lookup_row_of_ne heq]
    · rw [if_neg hkey, lookup_row_of_ne (Ne.symm hkey)]
      by_cases hother : other = k
      · subst hother
        simp [hkey]
      · rw [lookup_row_of_ne hother, lookup_row_of_ne hother, ih]

/-- A key that is held for the first time goes to the end. -/
theorem keys_hold (key encoded : String) (rows : List (String × SharedState)) :
    (hold key encoded rows).map Prod.fst =
      if key ∈ rows.map Prod.fst then rows.map Prod.fst else rows.map Prod.fst ++ [key] := by
  induction rows with
  | nil => simp [hold]
  | cons row rows ih =>
    obtain ⟨k, s⟩ := row
    unfold hold
    by_cases hkey : k = key
    · simp [hkey]
    · rw [if_neg hkey, List.map_cons, ih]
      by_cases hmem : key ∈ rows.map Prod.fst
      · simp [hmem]
      · simp [hmem, Ne.symm hkey]

theorem nodup_hold {rows : List (String × SharedState)} (h : (rows.map Prod.fst).Nodup)
    (key encoded : String) : ((hold key encoded rows).map Prod.fst).Nodup := by
  rw [keys_hold]
  split
  · exact h
  · rename_i hnew
    rw [← List.concat_eq_append]
    exact h.concat hnew

/-- **One user more**: the key that is held keeps its text, unless it had no users. -/
theorem Tallies.hold {rows : List (String × SharedState)} {users : String → Nat}
    {text : String → String} (h : Tallies rows users text) (key encoded : String) :
    Tallies (SharedState.hold key encoded rows)
      (fun k => users k + if k = key then 1 else 0)
      (fun k => if k = key ∧ users k = 0 then encoded else text k) where
  nodup := nodup_hold h.nodup key encoded
  lookup := by
    intro k
    rw [lookup_hold, h.lookup]
    by_cases hkey : k = key
    · subst hkey
      by_cases hzero : users k = 0 <;> simp [hzero]
    · simp [hkey, h.lookup]

/-! ## Releasing -/

theorem keys_release_sublist (key : String) (rows : List (String × SharedState)) :
    ((release key rows).map Prod.fst).Sublist (rows.map Prod.fst) := by
  induction rows with
  | nil => exact List.Sublist.refl _
  | cons row rows ih =>
    obtain ⟨k, s⟩ := row
    unfold release
    split
    · split
      · exact List.sublist_cons_self _ _
      · exact List.Sublist.refl _
    · exact ih.cons_cons k

theorem lookup_release {rows : List (String × SharedState)} (h : (rows.map Prod.fst).Nodup)
    (key other : String) :
    (release key rows).lookup other =
      if other = key then
        (rows.lookup key).bind fun s =>
          if s.users - 1 = 0 then none else some { s with users := s.users - 1 }
      else rows.lookup other := by
  induction rows with
  | nil => simp [release]
  | cons row rows ih =>
    obtain ⟨k, s⟩ := row
    rw [List.map_cons, List.nodup_cons] at h
    unfold release
    by_cases hkey : k = key
    · subst hkey
      rw [if_pos rfl]
      -- the row that is released is the only one of its key
      have hnone : rows.lookup k = none := by
        rw [List.lookup_eq_none_iff]
        intro row hrow
        rw [bne_iff_ne]
        intro heq
        exact h.1 (List.mem_map.2 ⟨row, hrow, heq.symm⟩)
      by_cases heq : other = k
      · subst heq
        by_cases hlast : s.users - 1 = 0 <;> simp [hnone, hlast]
      · rw [if_neg heq, lookup_row_of_ne heq]
        by_cases hlast : s.users - 1 = 0
        · rw [if_pos hlast]
        · rw [if_neg hlast, lookup_row_of_ne heq]
    · rw [if_neg hkey, lookup_row_of_ne (Ne.symm hkey)]
      by_cases hother : other = k
      · subst hother
        simp [hkey]
      · rw [lookup_row_of_ne hother, lookup_row_of_ne hother, ih h.2]

/-- **One user less**, for a key that has users: the row goes with the last of them. -/
theorem Tallies.release {rows : List (String × SharedState)} {users : String → Nat}
    {text : String → String} (h : Tallies rows users text) {key : String} (hpos : 0 < users key) :
    Tallies (SharedState.release key rows) (fun k => users k - if k = key then 1 else 0) text where
  nodup := h.nodup.sublist (keys_release_sublist key rows)
  lookup := by
    intro k
    rw [lookup_release h.nodup, h.lookup, h.lookup]
    by_cases hkey : k = key
    · subst hkey
      have hne : users k ≠ 0 := by omega
      simp [hne]
    · simp [hkey]

/-- A key with users has a row that can be counted down. -/
theorem Tallies.exists_row {rows : List (String × SharedState)} {users : String → Nat}
    {text : String → String} (h : Tallies rows users text) {key : String} (hpos : 0 < users key) :
    ∃ row, rows.lookup key = some row ∧ 0 < row.users := by
  have hne : users key ≠ 0 := by omega
  refine ⟨{ encoded := text key, users := users key }, ?_, hpos⟩
  rw [h.lookup, if_neg hne]

/-- The keys of the rows are the keys with users. -/
theorem Tallies.mem_keys_iff {rows : List (String × SharedState)} {users : String → Nat}
    {text : String → String} (h : Tallies rows users text) {key : String} :
    key ∈ rows.map Prod.fst ↔ 0 < users key := by
  constructor
  · intro hmem
    by_contra hzero
    have hnone : rows.lookup key = none := by
      rw [h.lookup, if_pos (by omega)]
    obtain ⟨row, hrow, heq⟩ := List.mem_map.1 hmem
    simpa [heq] using List.lookup_eq_none_iff.1 hnone row hrow
  · intro hpos
    obtain ⟨row, hrow, -⟩ := h.exists_row hpos
    obtain ⟨before, after, hrows, -⟩ := List.lookup_eq_some_iff.1 hrow
    simp [hrows]

end FormEngine.SharedState
