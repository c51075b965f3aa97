import FormEngine.Proofs.State.Register
import Mathlib.Data.Finset.Card
import Mathlib.Tactic.Tauto
/-!
# Entries that are used

An entry of a register is found again as long as it is among the most recent ones. What stands in
front of it was used after it, and no key stands there twice. So an entry that is not replaced stays
while fewer other keys are used than the register has room for, however often each of them is used
and whatever becomes of them. The text of its owner is the one that was added first, so it is the
right one if each static key is always added with one text.
-/

namespace FormEngine

namespace StoreCall

/-- The dynamic key that a call on a store is about. -/
def dynamicKey : StoreCall → String
  | .add keys _ => keys.dynamicState
  | .find keys => keys.dynamicState

/-- The dynamic keys other than one that calls are about. -/
def othersOf (key : String) (calls : List StoreCall) : Finset String :=
  (calls.map dynamicKey).toFinset.erase key

/-- The call adds nothing under the key. -/
def Spares (key : String) : StoreCall → Prop
  | .add keys _ => keys.dynamicState ≠ key
  | .find _ => True

instance (key : String) : DecidablePred (Spares key)
  | .add keys _ => inferInstanceAs (Decidable (keys.dynamicState ≠ key))
  | .find _ => isTrue trivial

/-- The call adds a static key with its own text. -/
def Means (token : String → String) : StoreCall → Prop
  | .add keys states => states.staticState = token keys.staticState
  | .find _ => True

theorem othersOf_cons (key : String) (call : StoreCall) (calls : List StoreCall) :
    othersOf key (call :: calls) = othersOf key [call] ∪ othersOf key calls := by
  ext other
  simp only [othersOf, List.map_cons, List.map_nil, List.toFinset_cons, List.toFinset_nil,
    Finset.mem_erase, Finset.mem_union, Finset.mem_insert, Finset.notMem_empty]
  tauto

theorem othersOf_singleton {key : String} {call : StoreCall} (h : call.dynamicKey ≠ key) :
    othersOf key [call] = {call.dynamicKey} := by
  simp [othersOf, Ne.symm h]

theorem othersOf_self {key : String} {call : StoreCall} (h : call.dynamicKey = key) :
    othersOf key [call] = ∅ := by
  simp [othersOf, h]

end StoreCall

namespace Register

open StoreCall

variable {r : Register}

theorem nodup_others (hnodup : (r.held.map Holding.key).Nodup) (key : String) :
    ((r.others key).map Holding.key).Nodup :=
  hnodup.sublist (List.filter_sublist.map _)

theorem notMem_others (r : Register) (key : String) : key ∉ (r.others key).map Holding.key := by
  intro hmem
  obtain ⟨g, hg, hkey⟩ := List.mem_map.1 hmem
  have hother := (List.mem_filter.1 hg).2
  rw [bne_iff_ne] at hother
  exact hother hkey

/-- Calls keep the keys of a register distinct. -/
theorem nodup_apply (hnodup : (r.held.map Holding.key).Nodup) (call : StoreCall) :
    ((r.apply call).held.map Holding.key).Nodup := by
  cases call with
  | add keys states =>
    have hkept := (List.take_sublist (r.capacity - 1) (r.others keys.dynamicState)).map Holding.key
    refine List.nodup_cons.2 ⟨?_, (nodup_others hnodup _).sublist hkept⟩
    exact fun hmem => r.notMem_others keys.dynamicState (hkept.subset hmem)
  | find keys =>
    have hperm := List.filter_append_perm (fun g : Holding => g.key == keys.dynamicState) r.held
    exact (hperm.map Holding.key).nodup_iff.2 hnodup

/-! ## In front of an entry -/

/-- An entry is held, and what stands in front of it has keys of a set. -/
def Leads (r : Register) (h : Holding) (ahead : Finset String) : Prop :=
  ∃ before after, r.held = before ++ h :: after ∧ ∀ g ∈ before, g.key ∈ ahead

variable {h : Holding} {ahead : Finset String}

theorem Leads.mem (hleads : r.Leads h ahead) : h ∈ r.held := by
  obtain ⟨before, after, hheld, -⟩ := hleads
  rw [hheld]
  exact List.mem_append_right _ List.mem_cons_self

/-- A new entry has nothing in front of it. -/
theorem leads_add (r : Register) (keys states : StatePair) :
    (r.add keys states).Leads
      { key := keys.dynamicState, owner := keys.staticState, text := states.dynamicState } ∅ :=
  ⟨[], _, rfl, fun _ hg => absurd hg List.not_mem_nil⟩

/-- An entry that is used itself does not fall back. -/
theorem Leads.touch_self (hleads : r.Leads h ahead) : (r.touch h.key).Leads h ahead := by
  obtain ⟨before, after, hheld, hbefore⟩ := hleads
  refine ⟨before.filter fun g => g.key == h.key,
    (after.filter fun g => g.key == h.key) ++ r.others h.key, ?_, ?_⟩
  · simp [touch, hheld, List.filter_append]
  · exact fun g hg => hbefore g (List.mem_filter.1 hg).1

/-- The entries under other keys than one, around an entry that is among them. -/
theorem others_split {before after : List Holding} {key : String} (hkey : key ≠ h.key)
    (hheld : r.held = before ++ h :: after) :
    r.others key = (before.filter fun g => g.key != key) ++
      h :: (after.filter fun g => g.key != key) := by
  have hne : (h.key != key) = true := bne_iff_ne.2 (Ne.symm hkey)
  simp [others, hheld, List.filter_append, hne]

/-- Behind another entry that is used at most that one comes in front. -/
theorem Leads.touch (hleads : r.Leads h ahead) {key : String} (hkey : key ≠ h.key) :
    (r.touch key).Leads h (ahead ∪ {key}) := by
  obtain ⟨before, after, hheld, hbefore⟩ := hleads
  refine ⟨(r.held.filter fun g => g.key == key) ++ before.filter fun g => g.key != key,
    after.filter fun g => g.key != key, ?_, ?_⟩
  · rw [List.append_assoc, ← others_split hkey hheld]
    rfl
  · intro g hg
    rcases List.mem_append.1 hg with hg | hg
    · have hused := beq_iff_eq.1 (List.mem_filter.1 hg).2
      exact Finset.mem_union_right _ (Finset.mem_singleton.2 hused)
    · exact Finset.mem_union_left _ (hbefore g (List.mem_filter.1 hg).1)

/-- Entries with distinct keys out of a set, all other than a new key, are fewer than the keys of the
set with the new one. -/
theorem length_lt_card {between : List Holding} {key : String}
    (hdistinct : (key :: between.map Holding.key).Nodup) (hmem : ∀ g ∈ between, g.key ∈ ahead) :
    between.length < (ahead ∪ {key}).card := by
  have hsubset : (key :: between.map Holding.key).toFinset ⊆ ahead ∪ {key} := by
    intro other hother
    rcases List.mem_cons.1 (List.mem_toFinset.1 hother) with rfl | hother
    · exact Finset.mem_union_right _ (Finset.mem_singleton_self _)
    · obtain ⟨g, hg, rfl⟩ := List.mem_map.1 hother
      exact Finset.mem_union_left _ (hmem g hg)
  have hcard := List.toFinset_card_of_nodup hdistinct
  rw [List.length_cons, List.length_map] at hcard
  have hle := Finset.card_le_card hsubset
  omega

/-- A new entry comes in front, and the entry stays if there is room for both and for what stands
between them. -/
theorem Leads.add (hleads : r.Leads h ahead) (hnodup : (r.held.map Holding.key).Nodup)
    {keys : StatePair} (hkey : keys.dynamicState ≠ h.key) (states : StatePair)
    (hroom : (ahead ∪ {keys.dynamicState}).card < r.capacity) :
    (r.add keys states).Leads h (ahead ∪ {keys.dynamicState}) := by
  obtain ⟨before, after, hheld, hbefore⟩ := hleads
  have hothers := others_split hkey hheld
  generalize hbetween : (before.filter fun g => g.key != keys.dynamicState) = between at hothers
  have hmem : ∀ g ∈ between, g.key ∈ ahead := by
    intro g hg
    rw [← hbetween] at hg
    exact hbefore g (List.mem_filter.1 hg).1
  have hdistinct : (keys.dynamicState :: between.map Holding.key).Nodup := by
    have hsublist : (between.map Holding.key).Sublist
        ((r.others keys.dynamicState).map Holding.key) := by
      rw [hothers]
      exact (List.sublist_append_left _ _).map _
    refine List.nodup_cons.2 ⟨?_, (nodup_others hnodup _).sublist hsublist⟩
    exact fun hold => r.notMem_others _ (hsublist.subset hold)
  have hlength := length_lt_card hdistinct hmem
  -- so what is cut off for want of room is behind the entry
  obtain ⟨room, hcapacity⟩ : ∃ room, r.capacity - 1 = between.length + (room + 1) :=
    ⟨r.capacity - 1 - between.length - 1, by omega⟩
  have hkept : (r.others keys.dynamicState).take (r.capacity - 1) =
      between ++ h :: (after.filter fun g => g.key != keys.dynamicState).take room := by
    rw [hothers, hcapacity, List.take_length_add_append, List.take_succ_cons]
  refine ⟨{ key := keys.dynamicState, owner := keys.staticState, text := states.dynamicState } ::
    between, _, congrArg (_ :: ·) hkept, ?_⟩
  intro g hg
  rcases List.mem_cons.1 hg with rfl | hg
  · exact Finset.mem_union_right _ (Finset.mem_singleton_self _)
  · exact Finset.mem_union_left _ (hmem g hg)

/-- **One call on a register with room**: an entry that is not replaced stays with the text of its
owner, and at most the key of the call comes in front of it. -/
theorem Leads.apply (hleads : r.Leads h ahead) (hnodup : (r.held.map Holding.key).Nodup)
    {call : StoreCall} (hspares : call.Spares h.key)
    (hroom : (ahead ∪ othersOf h.key [call]).card < r.capacity) :
    (r.apply call).Leads h (ahead ∪ othersOf h.key [call]) ∧
      (r.apply call).text h.owner = r.text h.owner := by
  cases call with
  | add keys states =>
    have hkey : (StoreCall.add keys states).dynamicKey ≠ h.key := hspares
    rw [othersOf_singleton hkey] at hroom ⊢
    exact ⟨hleads.add hnodup hspares states hroom, text_add_of_mem hleads.mem keys states⟩
  | find keys =>
    refine ⟨?_, rfl⟩
    by_cases hkey : (StoreCall.find keys).dynamicKey = h.key
    · rw [othersOf_self hkey, Finset.union_empty]
      show (r.touch (StoreCall.find keys).dynamicKey).Leads h ahead
      rw [hkey]
      exact hleads.touch_self
    · rw [othersOf_singleton hkey]
      exact hleads.touch hkey

/-- **An entry that is not replaced stays while fewer other keys are used than there is room for.** -/
theorem Leads.run (hleads : r.Leads h ahead) (hnodup : (r.held.map Holding.key).Nodup)
    {calls : List StoreCall} (hspares : ∀ call ∈ calls, call.Spares h.key)
    (hroom : (ahead ∪ othersOf h.key calls).card < r.capacity) :
    h ∈ (calls.foldl Register.apply r).held ∧
      (calls.foldl Register.apply r).text h.owner = r.text h.owner := by
  induction calls generalizing r ahead with
  | nil => exact ⟨hleads.mem, rfl⟩
  | cons call calls ih =>
    rw [othersOf_cons, ← Finset.union_assoc] at hroom
    have hcapacity : (r.apply call).capacity = r.capacity := by cases call <;> rfl
    have hfirst : (ahead ∪ othersOf h.key [call]).card < r.capacity :=
      Nat.lt_of_le_of_lt (Finset.card_le_card Finset.subset_union_left) hroom
    obtain ⟨hleads', htext⟩ := hleads.apply hnodup (hspares call List.mem_cons_self) hfirst
    obtain ⟨hmem, htext'⟩ := ih hleads' (nodup_apply hnodup call)
      (fun call' hcall' => hspares call' (List.mem_cons_of_mem _ hcall')) (by rwa [hcapacity])
    exact ⟨hmem, htext'.trans htext⟩

/-! ## The texts of owners -/

/-- The owners of entries have their own texts. -/
def Means (r : Register) (token : String → String) : Prop :=
  ∀ h ∈ r.held, r.text h.owner = token h.owner

variable {token : String → String}

/-- One call that adds a static key with its own text, or none. -/
theorem Means.apply (hmeans : r.Means token) {call : StoreCall} (hcall : call.Means token) :
    (r.apply call).Means token := by
  cases call with
  | add keys states =>
    have hold : ∀ h ∈ r.held, (r.add keys states).text h.owner = token h.owner := by
      intro h hmem
      rw [text_add_of_mem hmem]
      exact hmeans h hmem
    intro h hmem
    rcases mem_held_add hmem with rfl | hmem
    · rcases r.text_add_self keys states with htext | ⟨g, hg, howner⟩
      · exact htext.trans hcall
      · have htext := hold g hg
        rw [howner] at htext
        exact htext
    · exact hold h hmem
  | find keys => exact fun h hmem => hmeans h (mem_held_touch hmem)

/-- **Owners keep their own texts** where each static key is always added with one text. -/
theorem Means.run (hmeans : r.Means token) {calls : List StoreCall}
    (hcalls : ∀ call ∈ calls, call.Means token) : (calls.foldl Register.apply r).Means token := by
  induction calls generalizing r with
  | nil => exact hmeans
  | cons call calls ih =>
    exact ih (hmeans.apply (hcalls call List.mem_cons_self))
      (fun call' hcall' => hcalls call' (List.mem_cons_of_mem _ hcall'))

end Register

namespace StateStore

/-- The keys of a register that a store implements are distinct. -/
theorem Implements.nodup_held {s : StateStore} {r : Register} (h : s.Implements r) :
    (r.held.map Holding.key).Nodup := by
  have hkeys := h.sound.nodup
  rw [h.entries, List.map_map] at hkeys
  exact hkeys

/-- **What is added to a store is found** while nothing is added under its dynamic key and fewer
other dynamic keys are used than the store has room for, if each static key is always added with one
text. -/
theorem find?_after_add {size : Nat} {before since : List StoreCall} {keys states : StatePair}
    {token : String → String} (hbefore : ∀ call ∈ before, call.Means token)
    (hadd : (StoreCall.add keys states).Means token)
    (hspares : ∀ call ∈ since, call.Spares keys.dynamicState)
    (hroom : (StoreCall.othersOf keys.dynamicState since).card < max size 1) :
    (since.foldl StateStore.apply ((after size before).add keys states)).find? keys = some states := by
  have himplements := ((implements_ofSize size).run before).add keys states
  have hmeans : ((Register.after size before).add keys states).Means token :=
    (Register.Means.run (fun h hmem => absurd hmem List.not_mem_nil) hbefore).apply hadd
  have hroom' : (∅ ∪ StoreCall.othersOf keys.dynamicState since).card <
      ((Register.after size before).add keys states).capacity := by
    rw [Finset.empty_union]
    exact Nat.lt_of_lt_of_eq hroom ((Register.ofSize size).capacity_run before).symm
  obtain ⟨hmem, htext⟩ := ((Register.after size before).leads_add keys states).run
    himplements.nodup_held hspares hroom'
  refine (himplements.run since).find?_eq_some_iff.2 ⟨_, hmem, rfl, rfl, ?_⟩
  have hstatic := htext.trans (hmeans _ List.mem_cons_self)
  exact congrArg (StatePair.mk · states.dynamicState) (hadd.trans hstatic.symm)

end StateStore

end FormEngine
