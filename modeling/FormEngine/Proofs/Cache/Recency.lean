import FormEngine.Cache.Recency
import Mathlib.Data.List.Nodup
/-!
# Tables in order of use, as lists

In a table whose keys are distinct and whose bound holds, a push puts its entry in front and keeps
of the others as many as there is room for, whatever made them leave: the entry with the same key,
the least recent one, or none. So one formula describes the entries after a push, and the entries
before it are, up to order, the displaced one and the kept ones.
-/

namespace FormEngine.RecencyTable

variable {α : Type}

/-! ## Entries -/

/-- Whatever a table finds is one of its entries. -/
theorem mem_of_find? {t : RecencyTable α} {key : String} {value : α}
    (h : t.find? key = some value) : (key, value) ∈ t.entries := by
  obtain ⟨before, after, hentries, -⟩ := List.lookup_eq_some_iff.1 h
  simp [hentries]

/-- What was pushed is found. -/
@[simp]
theorem find?_push_self (t : RecencyTable α) (key : String) (value : α) :
    (t.push key value).find? key = some value := by
  simp [find?, push]

theorem mem_entries_of_mem_erase {t : RecencyTable α} {key : String} {e : String × α}
    (h : e ∈ (t.erase key).entries) : e ∈ t.entries := (List.mem_filter.1 h).1

/-- A table after a push holds the new entry and nothing that it did not hold before. -/
theorem mem_entries_push {t : RecencyTable α} {key : String} {value : α} {e : String × α}
    (h : e ∈ (t.push key value).entries) : e = (key, value) ∨ e ∈ t.entries := by
  simp only [push, List.mem_cons] at h
  refine h.imp id fun hkept => ?_
  split at hkept
  · exact (List.mem_filter.1 hkept).1
  · split at hkept
    · exact hkept
    · exact List.dropLast_subset _ hkept

/-- A table after a touch holds nothing that it did not hold before. -/
theorem mem_entries_touch {t : RecencyTable α} {key : String} {e : String × α}
    (h : e ∈ (t.touch key).entries) : e ∈ t.entries := by
  unfold touch at h
  split at h
  · exact h
  · rename_i value hfind
    rcases List.mem_cons.1 h with rfl | hother
    · exact mem_of_find? hfind
    · exact (List.mem_filter.1 hother).1

/-! ## Sound tables -/

/-- No key stands twice in the table, and the bound of the table holds. -/
structure Sound (t : RecencyTable α) : Prop where
  nodup : (t.entries.map Prod.fst).Nodup
  size_le : t.size ≤ t.capacity
  capacity_pos : 0 < t.capacity

theorem sound_ofSize (size : Nat) : (ofSize size : RecencyTable α).Sound where
  nodup := by simp [ofSize]
  size_le := by simp [ofSize, RecencyTable.size]
  capacity_pos := by simp only [ofSize]; omega

/-- The entries that stay when a value is put under a key: those under other keys, as far as there
is room beside the new one. -/
def kept (t : RecencyTable α) (key : String) : List (String × α) :=
  (t.others key).take (t.capacity - 1)

/-! ## One key among the entries -/

theorem ne_of_find?_eq_none {t : RecencyTable α} {key : String} (h : t.find? key = none) :
    ∀ e ∈ t.entries, e.1 ≠ key := by
  intro e he
  have hne := List.lookup_eq_none_iff.1 h e he
  rw [bne_iff_ne] at hne
  exact hne.symm

/-- Of the entries before a push at most those stay that are under other keys. -/
theorem mem_entries_push_of_ne {t : RecencyTable α} {key : String} {value : α} {e : String × α}
    (h : e ∈ (t.push key value).entries) : e = (key, value) ∨ e ∈ t.entries ∧ e.1 ≠ key := by
  simp only [push, List.mem_cons] at h
  refine h.imp id fun hkept => ?_
  split at hkept
  · obtain ⟨hold, hne⟩ := List.mem_filter.1 hkept
    exact ⟨hold, bne_iff_ne.1 hne⟩
  · rename_i hnew
    have hnone : t.find? key = none := by
      cases hfind : t.find? key with
      | none => rfl
      | some old => exact absurd (by simp [contains, hfind]) hnew
    have hold : e ∈ t.entries := by
      split at hkept
      · exact hkept
      · exact List.dropLast_subset _ hkept
    exact ⟨hold, ne_of_find?_eq_none hnone e hold⟩

theorem others_of_find?_eq_none {t : RecencyTable α} {key : String} (h : t.find? key = none) :
    t.others key = t.entries := by
  unfold others
  rw [List.filter_eq_self]
  intro e he
  exact bne_iff_ne.2 (ne_of_find?_eq_none h e he)

/-- The entry of a key, with the entries on its two sides. -/
theorem Sound.split {t : RecencyTable α} (h : t.Sound) {key : String} {value : α}
    (hfind : t.find? key = some value) :
    ∃ before after, t.entries = before ++ (key, value) :: after ∧
      t.others key = before ++ after := by
  obtain ⟨before, after, hentries, hbefore⟩ := List.lookup_eq_some_iff.1 hfind
  have hnodup := h.nodup
  rw [hentries, List.map_append, List.map_cons] at hnodup
  have hafter : ∀ e ∈ after, e.1 ≠ key := by
    intro e he heq
    have hcons := (List.nodup_append.1 hnodup).2.1
    exact (List.nodup_cons.1 hcons).1 (List.mem_map.2 ⟨e, he, heq⟩)
  refine ⟨before, after, hentries, ?_⟩
  have hkeep : before.filter (fun e => e.1 != key) = before := by
    rw [List.filter_eq_self]
    intro e he
    rw [bne_comm]
    exact hbefore e he
  have hkeep' : after.filter (fun e => e.1 != key) = after := by
    rw [List.filter_eq_self]
    intro e he
    exact bne_iff_ne.2 (hafter e he)
  unfold others
  rw [hentries, List.filter_append, List.filter_cons, hkeep, hkeep']
  simp

/-- Looking up finds exactly the entries. -/
theorem Sound.find?_eq_some_iff {t : RecencyTable α} (h : t.Sound) {key : String} {value : α} :
    t.find? key = some value ↔ (key, value) ∈ t.entries := by
  constructor
  · exact mem_of_find?
  · intro hmem
    cases hfind : t.find? key with
    | none => exact absurd rfl (ne_of_find?_eq_none hfind (key, value) hmem)
    | some other =>
      -- two entries of one key are one entry
      obtain ⟨before, after, hentries, hothers⟩ := h.split hfind
      have hcases : (key, value) = (key, other) ∨ (key, value) ∈ t.others key := by
        rw [hothers]
        rw [hentries] at hmem
        simp only [List.mem_append, List.mem_cons] at hmem ⊢
        tauto
      rcases hcases with heq | hother
      · exact congrArg some (Prod.mk.inj heq).2.symm
      · simp [others] at hother

/-- **The entries of a table are the one of a key and those under other keys.** -/
theorem Sound.perm_found_others {t : RecencyTable α} (h : t.Sound) (key : String) :
    t.entries.Perm (((t.find? key).map fun value => (key, value)).toList ++ t.others key) := by
  cases hfind : t.find? key with
  | some value =>
    obtain ⟨before, after, hentries, hothers⟩ := h.split hfind
    rw [hentries, hothers]
    exact List.perm_middle
  | none =>
    rw [others_of_find?_eq_none hfind]
    exact List.Perm.refl _

/-! ## Push -/

/-- With the entry of its own key gone there is room for all the others. -/
theorem Sound.kept_of_find? {t : RecencyTable α} (h : t.Sound) {key : String} {value : α}
    (hfind : t.find? key = some value) : t.kept key = t.others key := by
  have hle := h.size_le
  obtain ⟨before, after, hentries, hothers⟩ := h.split hfind
  unfold RecencyTable.size at hle
  rw [hentries, List.length_append, List.length_cons] at hle
  refine List.take_of_length_le ?_
  rw [hothers, List.length_append]
  omega

/-- A table with room for one more keeps everything. -/
theorem kept_of_lt {t : RecencyTable α} {key : String} (hfind : t.find? key = none)
    (hlt : t.size < t.capacity) : t.kept key = t.entries := by
  unfold RecencyTable.size at hlt
  unfold kept
  rw [others_of_find?_eq_none hfind]
  exact List.take_of_length_le (by omega)

/-- A full table loses its least recent entry. -/
theorem Sound.kept_of_full {t : RecencyTable α} (h : t.Sound) {key : String}
    (hfind : t.find? key = none) (hfull : ¬ t.size < t.capacity) :
    t.kept key = t.entries.dropLast := by
  have hle := h.size_le
  unfold RecencyTable.size at hle hfull
  have hlength : t.entries.length = t.capacity := by omega
  unfold kept
  rw [others_of_find?_eq_none hfind, ← hlength, List.dropLast_eq_take]

/-- **A push keeps what there is room for.** -/
theorem Sound.entries_push {t : RecencyTable α} (h : t.Sound) (key : String) (value : α) :
    (t.push key value).entries = (key, value) :: t.kept key := by
  unfold push contains
  cases hfind : t.find? key with
  | some old => simp [h.kept_of_find? hfind]
  | none =>
    by_cases hlt : t.size < t.capacity
    · simp [hlt, kept_of_lt hfind hlt]
    · simp [hlt, h.kept_of_full hfind hlt]

/-- **The entries of a table are the one that a push displaces and those that it keeps.** -/
theorem Sound.perm_displaced?_kept {t : RecencyTable α} (h : t.Sound) (key : String) :
    t.entries.Perm ((t.displaced? key).toList ++ t.kept key) := by
  unfold displaced?
  cases hfind : t.find? key with
  | some value =>
    obtain ⟨before, after, hentries, hothers⟩ := h.split hfind
    rw [h.kept_of_find? hfind, hothers, hentries]
    exact List.perm_middle
  | none =>
    by_cases hlt : t.size < t.capacity
    · rw [if_pos hlt, kept_of_lt hfind hlt]
      exact List.Perm.refl _
    · have hne : t.entries ≠ [] := by
        intro hnil
        have hpos := h.capacity_pos
        rw [RecencyTable.size, hnil, List.length_nil] at hlt
        exact hlt hpos
      rw [if_neg hlt, h.kept_of_full hfind hlt, List.getLast?_eq_getLast_of_ne_nil hne]
      calc t.entries = t.entries.dropLast ++ [t.entries.getLast hne] :=
            (List.dropLast_append_getLast hne).symm
        List.Perm _ ([t.entries.getLast hne] ++ t.entries.dropLast) := List.perm_append_comm

theorem kept_sublist (t : RecencyTable α) (key : String) : (t.kept key).Sublist t.entries :=
  (List.take_sublist _ _).trans List.filter_sublist

theorem notMem_kept {t : RecencyTable α} {key : String} : key ∉ (t.kept key).map Prod.fst := by
  intro hmem
  obtain ⟨e, he, rfl⟩ := List.mem_map.1 hmem
  have hother := List.mem_of_mem_take he
  simp [others] at hother

theorem Sound.push {t : RecencyTable α} (h : t.Sound) (key : String) (value : α) :
    (t.push key value).Sound where
  nodup := by
    rw [h.entries_push, List.map_cons, List.nodup_cons]
    exact ⟨notMem_kept, h.nodup.sublist ((t.kept_sublist key).map _)⟩
  size_le := size_push_le h.size_le h.capacity_pos key value
  capacity_pos := h.capacity_pos

/-- What is found under another key after a push was found before it. -/
theorem Sound.find?_of_find?_push {t : RecencyTable α} (h : t.Sound) {key other : String}
    {value found : α} (hne : other ≠ key) (hfind : (t.push key value).find? other = some found) :
    t.find? other = some found := by
  rcases mem_entries_push (mem_of_find? hfind) with heq | hmem
  · exact absurd (Prod.mk.inj heq).1 hne
  · exact h.find?_eq_some_iff.2 hmem

/-! ## Removal -/

theorem Sound.erase {t : RecencyTable α} (h : t.Sound) (key : String) : (t.erase key).Sound where
  nodup := h.nodup.sublist (List.filter_sublist.map _)
  size_le := Nat.le_trans (t.size_others_le key) h.size_le
  capacity_pos := h.capacity_pos

theorem Sound.clear {t : RecencyTable α} (h : t.Sound) : t.clear.Sound where
  nodup := List.nodup_nil
  size_le := Nat.zero_le _
  capacity_pos := h.capacity_pos

/-! ## Touch -/

/-- **A touch moves the entry of its key to the front**, if there is one. -/
theorem Sound.entries_touch {t : RecencyTable α} (h : t.Sound) (key : String) :
    (t.touch key).entries = t.entries.filter (fun e => e.1 == key) ++ t.others key := by
  unfold touch
  cases hfind : t.find? key with
  | some value =>
    obtain ⟨before, after, hentries, hothers⟩ := h.split hfind
    have hnone : ∀ e ∈ before ++ after, ¬ (e.1 == key) = true := by
      intro e he
      rw [← hothers] at he
      simpa [others] using (List.mem_filter.1 he).2
    have hperm : t.entries.Perm ((key, value) :: (before ++ after)) := by
      rw [hentries]
      exact List.perm_middle
    have hfilter := hperm.filter fun e => e.1 == key
    rw [List.filter_cons, List.filter_eq_nil_iff.2 hnone] at hfilter
    simp only [beq_self_eq_true, if_true, List.perm_singleton] at hfilter
    rw [hfilter]
    rfl
  | none =>
    have hnone : t.entries.filter (fun e => e.1 == key) = [] := by
      rw [List.filter_eq_nil_iff]
      intro e he
      rw [beq_iff_eq]
      exact ne_of_find?_eq_none hfind e he
    rw [hnone, others_of_find?_eq_none hfind, List.nil_append]

/-- A touch leaves the entries what they are, up to their order. -/
theorem Sound.perm_touch {t : RecencyTable α} (h : t.Sound) (key : String) :
    (t.touch key).entries.Perm t.entries := by
  rw [h.entries_touch]
  exact List.filter_append_perm (fun e => e.1 == key) t.entries

@[simp]
theorem capacity_touch (t : RecencyTable α) (key : String) :
    (t.touch key).capacity = t.capacity := by
  unfold touch
  split <;> rfl

theorem Sound.touch {t : RecencyTable α} (h : t.Sound) (key : String) : (t.touch key).Sound where
  nodup := ((h.perm_touch key).map Prod.fst).nodup_iff.2 h.nodup
  size_le := by
    have hlength := (h.perm_touch key).length_eq
    rw [capacity_touch]
    exact Nat.le_trans (Nat.le_of_eq hlength) h.size_le
  capacity_pos := by
    rw [capacity_touch]
    exact h.capacity_pos

/-- A touch changes nothing that is found. -/
theorem Sound.find?_touch {t : RecencyTable α} (h : t.Sound) (key other : String) :
    (t.touch key).find? other = t.find? other := by
  refine Option.ext fun value => ?_
  rw [(h.touch key).find?_eq_some_iff, h.find?_eq_some_iff]
  exact (h.perm_touch key).mem_iff

end FormEngine.RecencyTable
