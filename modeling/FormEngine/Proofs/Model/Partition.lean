import FormEngine.Proofs.Model.Registration
import Mathlib.Data.List.Nodup
import Mathlib.Data.List.Perm.Subperm
/-!
# The models of a scope

The index answers which models a scope has from the prefixed ids that were registered in it. So the
answer has one entry for each registration in the scope, in order, whether the model was kept or not,
and each model that is kept is among those of its own scope. The answers split the models up among the
scopes exactly if no prefixed id was registered twice. Otherwise some model is listed twice for its
scope, or for a scope that it does not belong to.
-/

namespace FormEngine

/-! ## One list of pairs and its groups -/

/-- A pair occurs in a list as often as its second part occurs in the group of its first part. -/
theorem count_eq_count_group {α β : Type} [DecidableEq α] [DecidableEq β] (pairs : List (α × β))
    (a : α) (b : β) :
    pairs.count (a, b) = ((pairs.filter (·.1 == a)).map (·.2)).count b := by
  induction pairs with
  | nil => rfl
  | cons pair pairs ih =>
    obtain ⟨a', b'⟩ := pair
    by_cases ha : a' = a
    · simp [List.count_cons, ih, ha]
    · simp [ih, ha]

/-- Lists of pairs with the same groups are permutations of each other. -/
theorem perm_of_groups {α β : Type} [DecidableEq α] [DecidableEq β] {xs ys : List (α × β)}
    (h : ∀ a, (xs.filter (·.1 == a)).map (·.2) = (ys.filter (·.1 == a)).map (·.2)) :
    xs.Perm ys := by
  rw [List.perm_iff_count]
  intro pair
  calc xs.count pair
    _ = ((xs.filter (·.1 == pair.1)).map (·.2)).count pair.2 := count_eq_count_group xs _ _
    _ = ((ys.filter (·.1 == pair.1)).map (·.2)).count pair.2 := by rw [h]
    _ = ys.count pair := (count_eq_count_group ys _ _).symm

/-! ## Models and registrations -/

namespace ModelIndex

variable {x : ModelIndex}

/-- The registrations that the models of the index come from. -/
def keys (x : ModelIndex) : List (ScopeId × String) := x.models.map fun m => (m.scope, m.prefixedId)

/-- Each registration is of a prefixed id of which a model is kept, and the models come from some of
the registrations, in order, with no prefixed id twice. -/
structure Keyed (x : ModelIndex) : Prop where
  nodup : (x.models.map (·.prefixedId)).Nodup
  kept : ∀ r ∈ x.registrations, (x.model? r.2).isSome = true
  keys : x.keys.Sublist x.registrations

theorem Keyed.add (h : x.Keyed) (scope : Scope) (d : Document) : (x.add scope d).Keyed := by
  have hkept : ∀ r ∈ (x.add scope d).registrations,
      ((x.add scope d).model? r.2).isSome = true := by
    intro r hr
    rcases List.mem_append.1 hr with hr | hr
    · have hold := h.kept r hr
      rwa [model?_add_of_isSome hold]
    · rw [List.mem_singleton.1 hr]
      exact model?_add_modelOf x scope d
  refine ⟨nodup_models_add h.nodup scope d, hkept, ?_⟩
  cases hfree : x.model? (x.modelOf scope d).prefixedId with
  | some m =>
    rw [ModelIndex.keys, models_add_of_taken hfree]
    exact h.keys.trans (List.sublist_append_left _ _)
  | none =>
    rw [ModelIndex.keys, models_add_of_free hfree, List.map_append, List.map_singleton]
    exact h.keys.append (List.Sublist.refl _)

theorem keyed_ofCalls (calls : List (Scope × Document)) : (ofCalls calls).Keyed := by
  refine List.foldlRecOn (motive := Keyed) calls _ ?_ ?_
  · exact ⟨.nil, List.forall_mem_nil _, .slnil⟩
  · intro x hx c _
    exact hx.add c.1 c.2

theorem scopes_ofCalls (calls : List (Scope × Document)) :
    (ofCalls calls).registrations.map (·.1) = calls.map (·.1.id) := by
  induction calls using List.reverseRecOn with
  | nil => rfl
  | append_singleton calls c ih =>
    rw [ofCalls_concat, List.map_append, ← ih]
    exact List.map_append

theorem Keyed.model?_prefixedId (h : x.Keyed) {m : Model} (hm : m ∈ x.models) :
    x.model? m.prefixedId = some m := by
  obtain ⟨e, he⟩ := Option.isSome_iff_exists.1 (model?_isSome_iff.2 ⟨m, hm, rfl⟩)
  have hsame : e.prefixedId = m.prefixedId := by simpa using List.find?_some he
  rw [he, List.inj_on_of_nodup_map h.nodup (List.mem_of_find?_eq_some he) hm hsame]

/-! ## The lists of the scopes -/

/-- **The list of a scope has one entry for each registration in it.** -/
theorem Keyed.map_modelsForScope (h : x.Keyed) (s : ScopeId) :
    (x.modelsForScope s).map (·.prefixedId) = x.idsForScope s := by
  have hall : ∀ ids : List String, (∀ id ∈ ids, (x.model? id).isSome = true) →
      (ids.filterMap x.model?).map (·.prefixedId) = ids := by
    intro ids
    induction ids with
    | nil => intro _; rfl
    | cons id ids ih =>
      intro hids
      rw [List.forall_mem_cons] at hids
      obtain ⟨m, hm⟩ := Option.isSome_iff_exists.1 hids.1
      have hid : m.prefixedId = id := by simpa using List.find?_some hm
      rw [List.filterMap_cons_some hm, List.map_cons, ih hids.2, hid]
  refine hall _ ?_
  intro id hid
  obtain ⟨r, hr, rfl⟩ := List.mem_map.1 hid
  exact h.kept r (List.mem_of_mem_filter hr)

/-- **A model that is kept is listed for its scope.** -/
theorem Keyed.mem_modelsForScope (h : x.Keyed) {m : Model} (hm : m ∈ x.models) :
    m ∈ x.modelsForScope m.scope := by
  have hkey : (m.scope, m.prefixedId) ∈ x.registrations :=
    h.keys.subset (List.mem_map_of_mem hm)
  refine List.mem_filterMap.2 ⟨m.prefixedId, ?_, h.model?_prefixedId hm⟩
  exact List.mem_map.2 ⟨_, List.mem_filter.2 ⟨hkey, beq_self_eq_true _⟩, rfl⟩

/-- The lists of the scopes split up the models: the list of each scope has the models that belong to
it, each of them once and in order of registration, and no others. -/
def Partitions (x : ModelIndex) : Prop :=
  ∀ s, x.modelsForScope s = x.models.filter (·.scope == s)

theorem group_keys (x : ModelIndex) (s : ScopeId) :
    (x.keys.filter (·.1 == s)).map (·.2) = (x.models.filter (·.scope == s)).map (·.prefixedId) := by
  rw [keys, List.filter_map, List.map_map]
  rfl

/-- The models are split up if all registrations were kept. -/
theorem Keyed.partitions_of_keys (h : x.Keyed) (hkeys : x.keys = x.registrations) :
    x.Partitions := by
  intro s
  have hfound : ∀ ms : List Model, (∀ m ∈ ms, m ∈ x.models) →
      (ms.map (·.prefixedId)).filterMap x.model? = ms := by
    intro ms hms
    rw [List.filterMap_map]
    calc ms.filterMap (x.model? ∘ (·.prefixedId))
      _ = ms.filterMap some :=
        List.filterMap_congr fun m hm => h.model?_prefixedId (hms m hm)
      _ = ms := List.filterMap_some
  rw [modelsForScope, idsForScope, ← hkeys, group_keys]
  exact hfound _ fun m hm => List.mem_of_mem_filter hm

/-- **The lists of the scopes split up the models exactly if no prefixed id was registered twice.** -/
theorem Keyed.partitions_iff (h : x.Keyed) :
    x.Partitions ↔ (x.registrations.map (·.2)).Nodup := by
  have hids : x.keys.map (·.2) = x.models.map (·.prefixedId) := by
    rw [ModelIndex.keys, List.map_map]
    rfl
  constructor
  · intro hpartitions
    have hperm : x.registrations.Perm x.keys := by
      refine perm_of_groups ?_
      intro s
      have hlist := h.map_modelsForScope s
      rw [hpartitions s, ← group_keys] at hlist
      exact hlist.symm
    rw [(hperm.map (·.2)).nodup_iff, hids]
    exact h.nodup
  · intro hnodup
    refine h.partitions_of_keys (h.keys.eq_of_length_le ?_)
    -- every registered id is that of a model, so there are enough models
    have hsub : (x.registrations.map (·.2)) ⊆ x.keys.map (·.2) := by
      intro id hid
      obtain ⟨r, hr, rfl⟩ := List.mem_map.1 hid
      obtain ⟨m, hm, hsame⟩ := model?_isSome_iff.1 (h.kept r hr)
      rw [hids, ← hsame]
      exact List.mem_map_of_mem hm
    have hlength := (List.subperm_of_subset hnodup hsub).length_le
    rwa [List.length_map, List.length_map] at hlength

/-- **What the lists of the scopes have after model documents have been registered**: one entry for
each document that was registered in the scope, in order, and at least once each model that belongs to
it. They split the models up exactly if no prefixed id was registered twice. -/
theorem modelsForScope_ofCalls (calls : List (Scope × Document)) :
    let x := ofCalls calls
    x.registrations.map (·.1) = calls.map (·.1.id) ∧
      (∀ s, (x.modelsForScope s).map (·.prefixedId) = x.idsForScope s) ∧
      (∀ m ∈ x.models, m ∈ x.modelsForScope m.scope) ∧
      (x.Partitions ↔ (x.registrations.map (·.2)).Nodup) := by
  intro x
  have hkeyed : x.Keyed := keyed_ofCalls calls
  exact ⟨scopes_ofCalls calls, hkeyed.map_modelsForScope, fun m hm => hkeyed.mem_modelsForScope hm,
    hkeyed.partitions_iff⟩

/-- **The models are not always split up**: a model whose id is registered once more in its scope is
listed twice. -/
theorem not_all_partitions : ¬∀ calls : List (Scope × Document), (ofCalls calls).Partitions := by
  intro hall
  have hlist := hall [(Scope.top, bareModel (some "m")), (Scope.top, bareModel (some "m"))] 0
  exact absurd (congrArg List.length hlist) (by decide)

end ModelIndex

end FormEngine
