import FormEngine.Proofs.Scope.Inside
import FormEngine.Proofs.Scope.Survey
/-!
# Walks that index nothing twice

What a walk leaves behind in the scope tree are entries of the index and shadow trees, and both can
be listed whatever the form looks like. Whether the list is a survey of the finished scope tree is
another matter, since an instance takes the place of the shadow tree of an earlier one with its
prefixed id. It is one when no prefixed id is indexed twice: an instance is indexed before its shadow
tree is entered, so no shadow tree that was entered is replaced.
-/

namespace FormEngine

namespace ScopeTree

variable {t t' t'' : ScopeTree} {L L' : List Met} {source : Source} {scope s : ScopeId} {n : NodeId}

/-! ## What a walk adds -/

/-- The shadow trees know scopes that there are. -/
structure Bounded (t : ScopeTree) : Prop where
  pos : 0 < t.size
  shadows : ∀ key s, t.shadowTree? key = some s → s.innerScope < t.size ∧ s.outerScope < t.size

/-- The index and the shadow trees have grown by what is in the list. -/
structure Adds (t t' : ScopeTree) (L : List Met) : Prop where
  continues : t.Continues t'
  resolution : t'.resolution = (L.map Met.entry).reverse ++ t.resolution
  kept : ∀ key, (∀ m ∈ L, m.isComponent = true → m.prefixedId ≠ key) →
    t'.shadowTree? key = t.shadowTree? key
  filled : ∀ m ∈ L, m.isComponent = true → (t'.shadowTree? m.prefixedId).isSome = true

/-- The prefixed ids of the index, one for each entry. -/
def keys (t : ScopeTree) : List String := t.resolution.map Prod.fst

theorem Adds.nil (t : ScopeTree) : t.Adds t [] where
  continues := ⟨⟨List.prefix_rfl, List.suffix_rfl⟩, rfl⟩
  resolution := rfl
  kept _ _ := rfl
  filled := List.forall_mem_nil _

theorem Adds.append (h : t.Adds t' L) (h' : t'.Adds t'' L') : t.Adds t'' (L ++ L') where
  continues :=
    { grows := ⟨h.continues.grows.scopes.trans h'.continues.grows.scopes,
        h.continues.grows.resolution.trans h'.continues.grows.resolution⟩
      components := h'.continues.components.trans h.continues.components }
  resolution := by
    rw [h'.resolution, h.resolution, List.map_append, List.reverse_append, List.append_assoc]
  kept key hkey := by
    rw [List.forall_mem_append] at hkey
    exact (h'.kept key hkey.2).trans (h.kept key hkey.1)
  filled m hm hcomponent := by
    -- a later instance with the same prefixed id has a shadow tree under it as well
    by_cases hagain : ∃ m' ∈ L', m'.isComponent = true ∧ m'.prefixedId = m.prefixedId
    · obtain ⟨m', hm', hcomponent', heq⟩ := hagain
      rw [← heq]
      exact h'.filled m' hm' hcomponent'
    · rcases List.mem_append.1 hm with hm | hm
      · rw [h'.kept _ fun m' hm' hcomponent' heq => hagain ⟨m', hm', hcomponent', heq⟩]
        exact h.filled m hm hcomponent
      · exact absurd ⟨m, hm, hcomponent, rfl⟩ hagain

theorem Adds.keys_eq (h : t.Adds t' L) : t'.keys = (L.map (·.prefixedId)).reverse ++ t.keys := by
  rw [keys, h.resolution, List.map_append, List.map_reverse, List.map_map]
  rfl

theorem Adds.nodup (h : t.Adds t' L) (honce : t'.keys.Nodup) : t.keys.Nodup := by
  rw [h.keys_eq] at honce
  exact (List.nodup_append.1 honce).2.1

theorem Adds.mem_keys (h : t.Adds t' L) {key : String} (hkey : key ∈ t.keys) : key ∈ t'.keys := by
  rw [h.keys_eq]
  exact List.mem_append_right _ hkey

theorem Adds.prefixedId_mem_keys (h : t.Adds t' L) {m : Met} (hm : m ∈ L) :
    m.prefixedId ∈ t'.keys := by
  rw [h.keys_eq]
  exact List.mem_append_left _ (List.mem_reverse.2 (List.mem_map_of_mem hm))

/-- **No shadow tree of an indexed instance is replaced** while nothing is indexed twice. -/
theorem Adds.shadowTree?_eq (h : t.Adds t' L) (honce : t'.keys.Nodup) {key : String}
    (hkey : key ∈ t.keys) : t'.shadowTree? key = t.shadowTree? key := by
  refine h.kept key fun m hm _ heq => ?_
  rw [h.keys_eq] at honce
  exact (List.nodup_append.1 honce).2.2 m.prefixedId
    (List.mem_reverse.2 (List.mem_map_of_mem hm)) key hkey heq

/-- The key of a source is indexed. -/
def Knows (t : ScopeTree) (source : Source) : Prop := ∀ key, source = .shadow key → key ∈ t.keys

theorem Adds.sameAt (h : t.Adds t' L) (honce : t'.keys.Nodup) (hknows : t.Knows source) :
    t.SameAt t' source := fun key hkey => h.shadowTree?_eq honce (hknows key hkey)

theorem Adds.knows (h : t.Adds t' L) (hknows : t.Knows source) : t'.Knows source :=
  fun key hkey => h.mem_keys (hknows key hkey)

theorem Bounded.lt (h : t.Bounded) (hlt : scope < t.size)
    (hs : t.scopeOfChild? scope n source = some s) : s < t.size := by
  cases source with
  | controls =>
    obtain rfl : scope = s := Option.some.inj hs
    exact hlt
  | shadow key =>
    rw [scopeOfChild?, Option.map_eq_some_iff] at hs
    obtain ⟨shadow, hshadow, rfl⟩ := hs
    obtain ⟨hinner, houter⟩ := h.shadows key shadow hshadow
    rw [ShadowTree.scopeOf]
    split
    · exact houter
    · exact hinner

/-! ## The steps -/

theorem bounded_indexAll (h : t.Bounded) (scope : ScopeId) (ids : List String) :
    (t.indexAll scope ids).Bounded := by
  rw [indexAll_eq]
  exact ⟨h.pos, h.shadows⟩

theorem adds_indexAll (t : ScopeTree) (source : Source) (n : NodeId) (scope : ScopeId)
    (ids : List String) : t.Adds (t.indexAll scope ids) (ids.map (t.met source n scope .element)) where
  continues := ⟨.indexAll t scope ids, by rw [indexAll_eq]⟩
  resolution := by
    rw [indexAll_eq, List.map_map]
    rfl
  kept _ _ := by rw [indexAll_eq]; rfl
  filled m hm hcomponent := by
    obtain ⟨id, -, rfl⟩ := List.mem_map.1 hm
    contradiction

theorem adds_enter (source : Source) (hlt : scope < t.size) (d : Document) (id : String)
    (shadow : ShadowTree) :
    t.Adds ((t.indexAll scope [id]).enter d n scope (t.prefixedId scope id) shadow)
      (t.met source n scope .component id ::
        (d.handlerIds n).map (t.met source n scope .handler)) := by
  rw [Site.index_enter_eq source hlt]
  refine ⟨⟨⟨List.prefix_append _ _, List.suffix_append _ _⟩, rfl⟩, rfl, ?_, ?_⟩
  · intro key hkey
    have hne : key ≠ t.prefixedId scope id :=
      Ne.symm (hkey (t.met source n scope .component id) List.mem_cons_self rfl)
    show (Json.assign _ shadow t.shadowTrees).lookup key = _
    rw [lookup_assign, if_neg hne]
    rfl
  · intro m hm hcomponent
    rcases List.mem_cons.1 hm with rfl | hm
    · show ((Json.assign _ shadow t.shadowTrees).lookup _).isSome = true
      rw [lookup_assign]
      exact Option.isSome_iff_exists.2 ⟨shadow, if_pos rfl⟩
    · obtain ⟨x, -, rfl⟩ := List.mem_map.1 hm
      contradiction

theorem bounded_enter (h : t.Bounded) (hlt : scope < t.size) (d : Document) (n : NodeId) (id : String)
    {shadow : ShadowTree} (hinner : shadow.innerScope = t.size) (houter : shadow.outerScope = scope) :
    ((t.indexAll scope [id]).enter d n scope (t.prefixedId scope id) shadow).Bounded := by
  rw [Site.index_enter_eq .controls hlt]
  have hsize : ∀ s, s < t.size → s < (t.scopes ++ [(⟨t.size, t.prefixedId scope id,
      t.prefixedId scope id ++ "$", some scope⟩ : Scope)]).length := by
    intro s hs
    rw [List.length_append]
    exact Nat.lt_succ_of_lt hs
  refine ⟨hsize 0 h.pos, fun key s hs => ?_⟩
  change (Json.assign _ shadow t.shadowTrees).lookup key = some s at hs
  rw [lookup_assign] at hs
  split at hs
  · obtain rfl := Option.some.inj hs
    refine ⟨?_, hsize _ (houter ▸ hlt)⟩
    show shadow.innerScope < List.length (t.scopes ++ _)
    rw [hinner, List.length_append]
    exact Nat.lt_succ_self _
  · exact ⟨hsize _ (h.shadows key s hs).1, hsize _ (h.shadows key s hs).2⟩

end ScopeTree

theorem scopes_of_instantiate {r : ComponentRegistry} {d : Document} {n : NodeId} {key : String}
    {scope innerScope : ScopeId} {shadow : ShadowTree}
    (h : r.instantiate d n key scope innerScope = .ok shadow) :
    shadow.innerScope = innerScope ∧ shadow.outerScope = scope := by
  unfold ComponentRegistry.instantiate at h
  split at h
  · contradiction
  split at h
  · contradiction
  split at h
  · contradiction
  obtain rfl := Except.ok.inj h
  exact ⟨rfl, rfl⟩

/-! ## The walk -/

section Walk

variable {controls : Document} {fuel : Nat}

/-- What the walk from an element leaves behind can be listed, and when nothing is indexed twice, the
list is a survey. -/
def Recorded (controls : Document) (fuel : Nat) : Prop :=
  ∀ {source : Source} {n : NodeId} {scope : ScopeId} {t t' : ScopeTree}, t.Bounded →
    scope < t.size → resolveElement controls fuel source n scope t = .ok t' →
    t'.Bounded ∧ ∃ L, t.Adds t' L ∧
      (t'.keys.Nodup → t.Knows source → Surveys controls t' fuel source n scope L)

/-- What the walk over several elements leaves behind. -/
theorem Recorded.resolveAll (h : Recorded controls fuel) {source : Source} {scope : ScopeId}
    {cs : List NodeId} {t t' : ScopeTree} (hbounded : t.Bounded) (hlt : scope < t.size)
    (hwalk : resolveAll controls fuel source scope cs t = .ok t') :
    t'.Bounded ∧ ∃ Ls : List (List Met), t.Adds t' Ls.flatten ∧ (t'.keys.Nodup → t.Knows source →
      List.Forall₂ (t'.SurveysChild (Surveys controls t' fuel) source scope) cs Ls) := by
  induction cs generalizing t with
  | nil =>
    obtain rfl : t = t' := Except.ok.inj hwalk
    exact ⟨hbounded, [], .nil t, fun _ _ => .nil⟩
  | cons c cs ih =>
    rw [FormEngine.resolveAll, List.foldlM_cons] at hwalk
    obtain ⟨t₁, hc, hcs⟩ := ok_of_bind hwalk
    cases hs : t.scopeOfChild? scope c source with
    | none =>
      rw [hs] at hc
      contradiction
    | some s =>
      rw [hs] at hc
      have hslt := hbounded.lt hlt hs
      obtain ⟨hbounded₁, L, hadds, hL⟩ := h hbounded hslt hc
      have hgrows := hadds.continues.grows
      obtain ⟨hbounded', Ls, hadds', hLs⟩ := ih hbounded₁ (Nat.lt_of_lt_of_le hlt hgrows.size_le) hcs
      have hall := hadds.append hadds'
      refine ⟨hbounded', L :: Ls, hall, fun honce hknows => ?_⟩
      have hslt₁ := Nat.lt_of_lt_of_le hslt hgrows.size_le
      refine .cons ⟨s, ?_, Nat.lt_of_lt_of_le hslt₁ hadds'.continues.grows.size_le, ?_⟩
        (hLs honce (hadds.knows hknows))
      · rw [(hall.sameAt honce hknows).scopeOfChild?]
        exact hs
      · -- the rest of the walk replaces no shadow tree that the child has looked at
        exact (hL (hadds'.nodup honce) hknows).mono hadds'.continues hslt₁
          (hadds'.sameAt honce (hadds.knows hknows))
          fun m hm _ => hadds'.shadowTree?_eq honce (hadds.prefixedId_mem_keys hm)

/-- By induction on the depth of the walk. -/
theorem recorded (controls : Document) (fuel : Nat) : Recorded controls fuel := by
  induction fuel with
  | zero =>
    intro source n scope t t' _ _ h
    contradiction
  | succ fuel ih =>
    intro source n scope t t' hbounded hlt h
    cases resolves_of_resolveElement h with
    | @passed d hd hpassed =>
      exact ⟨hbounded, [], .nil t, fun _ _ => .passed hd hpassed⟩
    | @data d name hd hname hdata =>
      have hadds := t.adds_indexAll source n scope (d.staticId? n).toList
      refine ⟨ScopeTree.bounded_indexAll hbounded scope _, _, hadds, fun honce hknows => ?_⟩
      rw [← ScopeTree.met_of_grows hadds.continues.grows hlt]
      exact .data ((hadds.sameAt honce hknows).document?.trans hd) hname hdata
    | @component d name id shadow t' hd hname hxbl hdata hcomponent hid hshadow hinner =>
      obtain ⟨hinnerScope, houterScope⟩ := scopes_of_instantiate hshadow
      have hadds := t.adds_enter source hlt d id shadow (n := n)
      have hgrows := hadds.continues.grows
      obtain ⟨hbounded', Ls, hadds', hLs⟩ := ih.resolveAll
        (ScopeTree.bounded_enter hbounded hlt d n id hinnerScope houterScope)
        (Nat.lt_of_lt_of_le hlt hgrows.size_le) hinner
      have hall := hadds.append hadds'
      refine ⟨hbounded', _, hall, fun honce hknows => ?_⟩
      have hkey : t.prefixedId scope id ∈ ((t.indexAll scope [id]).enter d n scope
          (t.prefixedId scope id) shadow).keys := hadds.prefixedId_mem_keys List.mem_cons_self
      have hprefixed := ScopeTree.prefixedId_of_grows hall.continues.grows hlt id
      have hshadow' : t'.shadowTree? (t'.prefixedId scope id) = some shadow := by
        rw [hprefixed, hadds'.shadowTree?_eq honce hkey]
        exact Site.shadowTree?_enter d n scope _ shadow
      rw [← ScopeTree.met_of_grows hall.continues.grows hlt,
        ← ScopeTree.met_of_grows hall.continues.grows hlt]
      refine .component ((hall.sameAt honce hknows).document?.trans hd) hname hxbl hdata ?_ hid
        hshadow' ?_
      · rw [hall.continues.components]
        exact hcomponent
      · rw [hprefixed]
        refine hLs honce fun key heq => ?_
        obtain rfl := Source.shadow.inj heq
        exact hkey
    | @plain d name t' hd hname hxbl hdata hcomponent hbelow =>
      have hadds := t.adds_indexAll source n scope (d.staticId? n).toList
      obtain ⟨hbounded', Ls, hadds', hLs⟩ := ih.resolveAll
        (ScopeTree.bounded_indexAll hbounded scope _)
        (Nat.lt_of_lt_of_le hlt hadds.continues.grows.size_le) hbelow
      have hall := hadds.append hadds'
      refine ⟨hbounded', _, hall, fun honce hknows => ?_⟩
      rw [← ScopeTree.met_of_grows hall.continues.grows hlt]
      refine .plain ((hall.sameAt honce hknows).document?.trans hd) hname hxbl hdata ?_
        (hLs honce (hadds.knows hknows))
      rw [hall.continues.components]
      exact hcomponent

end Walk

/-- **A walk over a form that indexes nothing twice** has surveys of the children of the root, which
list the entries of the index and the instances that have shadow trees. -/
theorem exists_surveys_of_nodup {controls : Document} {r : ComponentRegistry} {t : ScopeTree}
    (h : resolveScopes controls r = .ok t) (honce : t.keys.Nodup) :
    ∃ Ls, List.Forall₂ (t.SurveysChild (Surveys controls t (walkBound controls r)) .controls 0)
        (controls.childElements controls.root) Ls ∧
      (ScopeTree.ofComponents r).Adds t Ls.flatten := by
  have hbounded : (ScopeTree.ofComponents r).Bounded := ⟨Nat.one_pos, fun key s hs => by contradiction⟩
  have hwalk : resolveAll controls (walkBound controls r) .controls 0
      (controls.childElements controls.root) (ScopeTree.ofComponents r) = .ok t := h
  obtain ⟨-, Ls, hadds, hLs⟩ := Recorded.resolveAll (recorded controls (walkBound controls r))
    hbounded hbounded.pos hwalk
  exact ⟨Ls, hLs honce fun key heq => by contradiction, hadds⟩

end FormEngine
