import FormEngine.Proofs.Scope.Inside
/-!
# The walk gives out each prefixed id once

What a walk over some elements of a site adds to the scope tree is laid out in its survey: one scope
for each instance, one entry of the index for each member, and a shadow tree under the prefixed id
of each instance. The invariant says further that the prefixed ids of plain ids belong to ids of the
elements walked, and that none comes up twice. Walks over different elements go together, because a
prefixed id belongs to one id only; the walk over an instance is put together from its own id, the
ids in its handlers and the walk over its shadow tree.
-/

namespace FormEngine

/-- The static id does not look like a path. -/
def Met.isPlain (m : Met) : Bool := decide (IsPlain m.staticId)

theorem Met.isHandler_of_isComponent {m : Met} (h : m.isComponent = true) : m.isHandler = false := by
  rw [isHandler, beq_iff_eq.1 h]
  rfl

namespace Site

/-- What the walk over elements with these ids adds. -/
structure Yields (S : Site) (t t' : ScopeTree) (ids : List String) (L : List Met) : Prop where
  components : t'.components = t.components
  scopes : ∃ new, t'.scopes = t.scopes ++ new ∧
    new.map (fun s => (s.fullPrefix, s.parent)) =
      (L.filter Met.isComponent).map fun m => (m.prefixedId ++ "$", some m.scope)
  resolution : t'.resolution = (L.map Met.entry).reverse ++ t.resolution
  shadows : ∀ key, (∀ m ∈ L, m.isComponent = true → m.prefixedId ≠ key) →
    t'.shadowTree? key = t.shadowTree? key
  /-- Only in a handler an id may look like a path. -/
  plain : ∀ m ∈ L, m.isHandler = false → m.isPlain = true
  owned : ∀ m ∈ L, m.isPlain = true → ∃ id ∈ ids, S.Owns id m.prefixedId
  nodup : ((L.filter Met.isPlain).map (·.prefixedId)).Nodup

namespace Yields

variable {S : Site} {r : ComponentRegistry} {controls : Document} {t t₁ t₂ t' : ScopeTree}
  {ids ids₁ ids₂ : List String} {L L₁ L₂ : List Met}

theorem continues (h : S.Yields t t' ids L) : t.Continues t' := by
  obtain ⟨new, hscopes, -⟩ := h.scopes
  refine ⟨⟨?_, ?_⟩, h.components⟩
  · rw [hscopes]
    exact List.prefix_append _ _
  · rw [h.resolution]
    exact List.suffix_append _ _

theorem nil (S : Site) (t : ScopeTree) (ids : List String) : S.Yields t t ids [] where
  components := rfl
  scopes := ⟨[], (List.append_nil _).symm, rfl⟩
  resolution := rfl
  shadows _ _ := rfl
  plain m hm := by simp at hm
  owned m hm := by simp at hm
  nodup := List.nodup_nil

theorem mono (h : S.Yields t t' ids₁ L) (hsub : ids₁ ⊆ ids₂) : S.Yields t t' ids₂ L where
  components := h.components
  scopes := h.scopes
  resolution := h.resolution
  shadows := h.shadows
  plain := h.plain
  owned m hm hplain := by
    obtain ⟨id, hid, howns⟩ := h.owned m hm hplain
    exact ⟨id, hsub hid, howns⟩
  nodup := h.nodup

theorem isPlain_of_isComponent (h : S.Yields t t' ids L) {m : Met} (hm : m ∈ L)
    (hcomponent : m.isComponent = true) : m.isPlain = true :=
  h.plain m hm (Met.isHandler_of_isComponent hcomponent)

/-- **Walks that give out different prefixed ids go together.** -/
theorem append (h₁ : S.Yields t t₁ ids₁ L₁) (h₂ : S.Yields t₁ t₂ ids₂ L₂)
    (hne : ∀ m₁ ∈ L₁, m₁.isPlain = true → ∀ m₂ ∈ L₂, m₂.isPlain = true →
      m₁.prefixedId ≠ m₂.prefixedId) : S.Yields t t₂ (ids₁ ++ ids₂) (L₁ ++ L₂) where
  components := h₂.components.trans h₁.components
  scopes := by
    obtain ⟨new₁, hscopes₁, hnew₁⟩ := h₁.scopes
    obtain ⟨new₂, hscopes₂, hnew₂⟩ := h₂.scopes
    refine ⟨new₁ ++ new₂, ?_, ?_⟩
    · rw [hscopes₂, hscopes₁, List.append_assoc]
    · rw [List.map_append, hnew₁, hnew₂, List.filter_append, List.map_append]
  resolution := by
    rw [h₂.resolution, h₁.resolution, List.map_append, List.reverse_append, List.append_assoc]
  shadows key hkey := by
    rw [List.forall_mem_append] at hkey
    rw [h₂.shadows key hkey.2, h₁.shadows key hkey.1]
  plain := List.forall_mem_append.2 ⟨h₁.plain, h₂.plain⟩
  owned := by
    rw [List.forall_mem_append]
    constructor
    · exact (h₁.mono (List.subset_append_left ids₁ ids₂)).owned
    · exact (h₂.mono (List.subset_append_right ids₁ ids₂)).owned
  nodup := by
    rw [List.filter_append, List.map_append, List.nodup_append]
    refine ⟨h₁.nodup, h₂.nodup, ?_⟩
    intro k₁ hk₁ k₂ hk₂
    obtain ⟨m₁, hm₁, rfl⟩ := List.mem_map.1 hk₁
    obtain ⟨m₂, hm₂, rfl⟩ := List.mem_map.1 hk₂
    rw [List.mem_filter] at hm₁ hm₂
    exact hne m₁ hm₁.1 hm₁.2 m₂ hm₂.1 hm₂.2

/-- Walks over elements with different ids give out different prefixed ids, because each of them
belongs to one id. -/
theorem ne_of_disjoint (hfits : S.Fits r) (h₁ : S.Yields t t₁ ids₁ L₁) (h₂ : S.Yields t₁ t₂ ids₂ L₂)
    (hdisjoint : ids₁.Disjoint ids₂) : ∀ m₁ ∈ L₁, m₁.isPlain = true → ∀ m₂ ∈ L₂,
      m₂.isPlain = true → m₁.prefixedId ≠ m₂.prefixedId := by
  intro m₁ hm₁ hplain₁ m₂ hm₂ hplain₂ heq
  obtain ⟨id₁, hid₁, howns₁⟩ := h₁.owned m₁ hm₁ hplain₁
  obtain ⟨id₂, hid₂, howns₂⟩ := h₂.owned m₂ hm₂ hplain₂
  rw [heq] at howns₁
  obtain rfl := hfits.owner_unique howns₁ howns₂
  exact hdisjoint hid₁ hid₂

/-- A later walk that gives out other prefixed ids replaces no shadow tree of an earlier one. -/
theorem shadows_keep (h₁ : S.Yields t t₁ ids₁ L₁) (h₂ : S.Yields t₁ t₂ ids₂ L₂)
    (hne : ∀ m₁ ∈ L₁, m₁.isPlain = true → ∀ m₂ ∈ L₂, m₂.isPlain = true →
      m₁.prefixedId ≠ m₂.prefixedId) :
    ∀ m ∈ L₁, m.isComponent = true → t₂.shadowTree? m.prefixedId = t₁.shadowTree? m.prefixedId := by
  intro m hm hcomponent
  refine h₂.shadows m.prefixedId fun m₂ hm₂ hcomponent₂ => ?_
  exact (hne m hm (h₁.isPlain_of_isComponent hm hcomponent) m₂ hm₂
    (h₂.isPlain_of_isComponent hm₂ hcomponent₂)).symm

/-- The walk does not replace the shadow tree that it is in. -/
theorem sameAt (hfits : S.Fits r) (h : S.Yields t t' ids L) : t.SameAt t' S.source := by
  intro key hkey
  refine h.shadows key fun m hm hcomponent heq => ?_
  obtain ⟨id, -, howns⟩ := h.owned m hm (h.isPlain_of_isComponent hm hcomponent)
  rw [heq] at howns
  exact hfits.not_owns_key hkey id howns

/-! ## One element -/

variable {s : Tree}

/-- The walk comes to an element and indexes its id. -/
theorem own (hfits : S.Fits r) (hat : S.At controls t) (hs : s ∈ S.tree.walked) :
    S.Yields t (t.indexAll (S.scopeOf s.id) s.kind.staticId?.toList) s.kind.staticId?.toList
      (s.kind.staticId?.toList.map (t.met S.source s.id (S.scopeOf s.id) .element)) := by
  cases hid : s.kind.staticId? with
  | none => exact nil S t []
  | some id =>
    have hplain : IsPlain id := hfits.plain s hs id hid
    have hmem : id ∈ s.staticIds := Tree.mem_staticIds.2 ⟨s, Tree.self_mem_subtrees s, hid⟩
    have howns := hfits.owns_key (Tree.walked_subset_subtrees S.tree hs) hmem hplain
    rw [← hat.prefixedId] at howns
    refine ⟨?_, ⟨[], ?_, rfl⟩, ?_, fun key _ => ?_, ?_, ?_, ?_⟩
    · rw [ScopeTree.indexAll_eq]
    · rw [ScopeTree.indexAll_eq, List.append_nil]
    · rw [ScopeTree.indexAll_eq]
      rfl
    · rw [ScopeTree.indexAll_eq]
      rfl
    · intro m hm _
      obtain rfl := List.mem_singleton.1 hm
      exact decide_eq_true hplain
    · intro m hm _
      obtain rfl := List.mem_singleton.1 hm
      exact ⟨id, List.mem_cons_self, howns⟩
    · exact (List.nodup_singleton _).sublist (List.filter_sublist.map _)

/-! ## A component instance -/

section Component

variable {id : String} {b : Binding} {template : Document} {shadow : ShadowTree} {t₀ filled : Tree}

/-- The handlers on an instance of the site. -/
theorem handlerIds (hfits : S.Fits r) (hs : s ∈ S.tree.subtrees) :
    S.document.handlerIds s.id = s.handlers.flatMap Tree.staticIds := by
  obtain ⟨p, hp⟩ := hfits.tree.holds.subtree hs
  refine hp.handlerIds (fun u hu => hfits.tree.leaf u (Tree.mem_subtrees_trans hu hs)) ?_
  exact Nat.le_trans (Tree.height_le_of_mem_subtrees hs) hfits.tree.height

/-- An instance gives out its own prefixed id and those of its handlers once each. -/
theorem nodup_instance (hfits : S.Fits r) (hat : S.At controls t)
    (hi : S.Instance r s id b template shadow t₀ filled) :
    ((id :: (s.handlers.flatMap Tree.staticIds).filter fun x => decide (IsPlain x)).map
      (t.prefixedId (S.scopeOf s.id))).Nodup := by
  obtain ⟨hfresh, hbelow⟩ := hi.nodup hfits
  refine List.Nodup.map_on ?_ (List.nodup_cons.2 ⟨?_, ?_⟩)
  · -- the last id can be read off the prefixed id
    have hall : ∀ x ∈ id :: (s.handlers.flatMap Tree.staticIds).filter fun x => decide (IsPlain x),
        IsPlain x := by
      rw [List.forall_mem_cons]
      exact ⟨hi.isPlain hfits.toSpelled, fun x hx => of_decide_eq_true (List.mem_filter.1 hx).2⟩
    intro x hx y hy heq
    rw [hat.prefixedId, hat.prefixedId] at heq
    have hpath := hfits.path_plain s.id
    have hconcat := Path.key_inj hpath hpath (hall x hx) (hall y hy) heq
    exact (List.cons.inj (List.append_cancel_left hconcat)).1
  · intro hmem
    exact hfresh (s.handlers_subset (List.mem_of_mem_filter hmem))
  · exact (hbelow.sublist (List.filter_sublist.flatMap Tree.staticIds)).filter _

/-- The walk enters an instance and indexes its id and those in its handlers. -/
theorem enter (hfits : S.Fits r) (hat : S.At controls t)
    (hi : S.Instance r s id b template shadow t₀ filled) :
    S.Yields t ((t.indexAll (S.scopeOf s.id) [id]).enter S.document s.id (S.scopeOf s.id)
        (t.prefixedId (S.scopeOf s.id) id) shadow) s.staticIds
      (t.met S.source s.id (S.scopeOf s.id) .component id ::
        (S.document.handlerIds s.id).map (t.met S.source s.id (S.scopeOf s.id) .handler)) := by
  have hplain : IsPlain id := hi.isPlain hfits.toSpelled
  have howned : ∀ x ∈ s.staticIds, IsPlain x → S.Owns x (t.prefixedId (S.scopeOf s.id) x) := by
    intro x hx hxplain
    rw [hat.prefixedId]
    exact hfits.owns_key hi.mem_subtrees hx hxplain
  rw [index_enter_eq S.source (hat.lt s.id), handlerIds hfits hi.mem_subtrees]
  have hhandlers : ∀ m ∈ (s.handlers.flatMap Tree.staticIds).map
      (t.met S.source s.id (S.scopeOf s.id) .handler), ∃ x ∈ s.handlers.flatMap Tree.staticIds,
        m = t.met S.source s.id (S.scopeOf s.id) .handler x := by
    intro m hm
    obtain ⟨x, hx, rfl⟩ := List.mem_map.1 hm
    exact ⟨x, hx, rfl⟩
  refine ⟨rfl, ⟨_, rfl, ?_⟩, rfl, fun key hnot => ?_, ?_, ?_, ?_⟩
  · -- the instance has a scope of its own, its handlers have none
    have hnone : ((s.handlers.flatMap Tree.staticIds).map
        (t.met S.source s.id (S.scopeOf s.id) .handler)).filter Met.isComponent = [] := by
      refine List.filter_eq_nil_iff.2 fun m hm => ?_
      obtain ⟨x, -, rfl⟩ := hhandlers m hm
      exact Bool.false_ne_true
    rw [List.filter_cons_of_pos rfl, hnone]
    rfl
  · rw [List.forall_mem_cons] at hnot
    have hne : key ≠ t.prefixedId (S.scopeOf s.id) id := (hnot.1 rfl).symm
    show (Json.assign (t.prefixedId (S.scopeOf s.id) id) shadow t.shadowTrees).lookup key = _
    rw [lookup_assign, if_neg hne]
    rfl
  · rw [List.forall_mem_cons]
    refine ⟨fun _ => decide_eq_true hplain, fun m hm hnot => ?_⟩
    obtain ⟨x, -, rfl⟩ := hhandlers m hm
    contradiction
  · rw [List.forall_mem_cons]
    refine ⟨fun _ => ⟨id, hi.mem_staticIds, howned id hi.mem_staticIds hplain⟩, fun m hm hmplain => ?_⟩
    obtain ⟨x, hx, rfl⟩ := hhandlers m hm
    have hmem : x ∈ s.staticIds :=
      Tree.children_staticIds_subset (Tree.self_mem_subtrees s) (s.handlers_subset hx)
    exact ⟨x, hmem, howned x hmem (of_decide_eq_true hmplain)⟩
  · have hpos : (t.met S.source s.id (S.scopeOf s.id) .component id).isPlain = true :=
      decide_eq_true hplain
    have hnodup := nodup_instance hfits hat hi
    rw [List.filter_cons_of_pos hpos, List.filter_map, List.map_cons, List.map_map]
    exact hnodup

/-- What comes up in the shadow tree of an instance belongs to ids of the instance in the site around
it. -/
theorem outward (hfits : S.Fits r) (hi : S.Instance r s id b template shadow t₀ filled)
    (h : (S.inside s id shadow filled).Yields t t' ids L) : S.Yields t t' s.staticIds L where
  components := h.components
  scopes := h.scopes
  resolution := h.resolution
  shadows := h.shadows
  plain := h.plain
  owned m hm hplain := by
    obtain ⟨x, -, howns⟩ := h.owned m hm hplain
    exact hi.exists_owner hfits howns
  nodup := h.nodup

/-- What an instance gives out itself is not given out in its shadow tree. -/
theorem ne_of_inside (hfits : S.Fits r) (hat : S.At controls t)
    (hi : S.Instance r s id b template shadow t₀ filled)
    (hinner : (S.inside s id shadow filled).Yields t₁ t' ids L) :
    ∀ m ∈ t.met S.source s.id (S.scopeOf s.id) .component id ::
        (S.document.handlerIds s.id).map (t.met S.source s.id (S.scopeOf s.id) .handler),
      m.isPlain = true → ∀ m' ∈ L, m'.isPlain = true → m.prefixedId ≠ m'.prefixedId := by
  -- the ids of the instance and of its handlers are not those of its content, which may stay outer
  obtain ⟨hfresh, hbelow⟩ := hi.nodup hfits
  have hnew : ∀ x, IsPlain x → x ∉ s.content.flatMap Tree.staticIds → ∀ m' ∈ L,
      m'.isPlain = true → t.prefixedId (S.scopeOf s.id) x ≠ m'.prefixedId := by
    intro x hx hcontent m' hm' hplain' heq
    obtain ⟨y, -, howns⟩ := hinner.owned m' hm' hplain'
    rw [← heq, hat.prefixedId] at howns
    exact hi.not_owns hfits hx hcontent howns
  rw [handlerIds hfits hi.mem_subtrees, List.forall_mem_cons]
  refine ⟨fun hplain => hnew id (of_decide_eq_true hplain) fun hc => hfresh (s.content_subset hc),
    fun m hm hplain => ?_⟩
  obtain ⟨x, hx, rfl⟩ := List.mem_map.1 hm
  exact hnew x (of_decide_eq_true hplain) fun hc => Tree.disjoint_handlers_content hbelow hx hc

/-- **The walk comes to an instance**, indexes its id and those in its handlers, and walks its
shadow tree. -/
theorem component (hfits : S.Fits r) (hat : S.At controls t)
    (hi : S.Instance r s id b template shadow t₀ filled)
    (hinner : (S.inside s id shadow filled).Yields
      ((t.indexAll (S.scopeOf s.id) [id]).enter S.document s.id (S.scopeOf s.id)
        (t.prefixedId (S.scopeOf s.id) id) shadow) t' ids L) :
    S.Yields t t' s.staticIds (t.met S.source s.id (S.scopeOf s.id) .component id ::
      ((S.document.handlerIds s.id).map (t.met S.source s.id (S.scopeOf s.id) .handler) ++ L)) := by
  have hall := (enter hfits hat hi).append (hinner.outward hfits hi) (ne_of_inside hfits hat hi hinner)
  exact hall.mono (List.append_subset.2 ⟨List.Subset.refl _, List.Subset.refl _⟩)

end Component

end Yields

/-! ## The whole walk -/

variable {S : Site} {r : ComponentRegistry} {controls : Document} {t t' : ScopeTree} {fuel : Nat}
  {s : Tree}

/-- The walk from an element has a survey, which lays out what it adds. -/
def Surveyed (controls : Document) (r : ComponentRegistry) (fuel : Nat) : Prop :=
  ∀ (S : Site) (s : Tree) (t t' : ScopeTree), S.Fits r → S.At controls t → t.components = r →
    s ∈ S.tree.walked → resolveElement controls fuel S.source s.id (S.scopeOf s.id) t = .ok t' →
    ∃ L, Surveys controls t' fuel S.source s.id (S.scopeOf s.id) L ∧ S.Yields t t' s.staticIds L

/-- Elements with different ids are walked one after the other. -/
theorem Surveyed.exists_surveys (h : Surveyed controls r fuel) (hfits : S.Fits r) {cs : List Tree}
    (hcs : ∀ c ∈ cs, c ∈ S.tree.walked) (hids : (cs.flatMap Tree.staticIds).Nodup)
    {scope : ScopeId} (hscope : S.source = .controls → scope = S.innerScope)
    (hat : S.At controls t) (hcomponents : t.components = r)
    (hwalk : resolveAll controls fuel S.source scope (cs.map Tree.id) t = .ok t') :
    ∃ Ls, List.Forall₂ (t'.SurveysChild (Surveys controls t' fuel) S.source scope)
      (cs.map Tree.id) Ls ∧ S.Yields t t' (cs.flatMap Tree.staticIds) Ls.flatten := by
  induction cs generalizing t with
  | nil =>
    obtain rfl : t = t' := Except.ok.inj hwalk
    exact ⟨[], .nil, Yields.nil S t _⟩
  | cons c cs ih =>
    rw [List.flatMap_cons, List.nodup_append] at hids
    rw [List.forall_mem_cons] at hcs
    obtain ⟨t₁, hc, hrest⟩ := ok_of_bind hwalk
    simp only [hat.scopeOfChild scope c.id hscope] at hc
    obtain ⟨L, hL, hyields⟩ := h S c t t₁ hfits hat hcomponents hcs.1 hc
    have hat₁ := hat.mono hyields.continues.grows (hyields.sameAt hfits)
    obtain ⟨Ls, hLs, hyields'⟩ := ih hcs.2 hids.2.1 hat₁
      (hyields.components.trans hcomponents) hrest
    have hne := hyields.ne_of_disjoint hfits hyields' fun x hx hx' => hids.2.2 x hx x hx' rfl
    -- the survey of the first element stays right while the others are walked
    have hkept := hL.mono hyields'.continues (hat₁.lt c.id) (hyields'.sameAt hfits)
      (hyields.shadows_keep hyields' hne)
    have hat' := hat₁.mono hyields'.continues.grows (hyields'.sameAt hfits)
    exact ⟨L :: Ls, .cons ⟨_, hat'.scopeOfChild scope c.id hscope, hat'.lt c.id, hkept⟩ hLs,
      hyields.append hyields' hne⟩

/-- An element that is no instance is walked through. -/
theorem Surveyed.plain (h : Surveyed controls r fuel) (hfits : S.Fits r) (hat : S.At controls t)
    (hcomponents : t.components = r) (hs : s ∈ S.tree.walked) {name : QName}
    (hname : S.document.name? s.id = some name) (hxbl : name.uri ≠ Namespace.xbl)
    (hdata : name.is Namespace.xforms "instance" = false)
    (hcomponent : t.components.isComponent name = false)
    (hbelow : resolveAll controls fuel S.source (S.scopeOf s.id) (S.document.childElements s.id)
      (t.indexAll (S.scopeOf s.id) (S.document.staticId? s.id).toList) = .ok t') :
    ∃ L, Surveys controls t' (fuel + 1) S.source s.id (S.scopeOf s.id) L ∧
      S.Yields t t' s.staticIds L := by
  have hsub := Tree.walked_subset_subtrees S.tree hs
  obtain ⟨p, hp⟩ := hfits.tree.holds.subtree hsub
  rw [staticId?_eq hfits.tree hs, hp.childElements] at hbelow
  have hown := Yields.own hfits hat hs
  have hat₁ := hat.mono hown.continues.grows (hown.sameAt hfits)
  have hnodup := hfits.nodup.sublist (Tree.staticIds_sublist_of_mem_subtrees hsub)
  rw [Tree.staticIds_eq, List.nodup_append] at hnodup
  have hsublist : ((s.children.filter fun c => c.kind.isElement).flatMap Tree.staticIds).Sublist
      (s.children.flatMap Tree.staticIds) := List.filter_sublist.flatMap Tree.staticIds
  have hwalked : ∀ c ∈ s.children.filter fun c => c.kind.isElement, c ∈ S.tree.walked := by
    intro c hc
    exact Tree.exposed_subset_walked_of_child hs ((isData_eq hfits.tree hs hname).trans hdata)
      (List.mem_of_mem_filter hc) c.self_mem_exposed
  have hscope : S.source = .controls → S.scopeOf s.id = S.innerScope := by
    intro hcontrols
    rw [scopeOf, hfits.controls hcontrols]
    rfl
  obtain ⟨Ls, hLs, hyields⟩ := h.exists_surveys hfits hwalked (hnodup.2.1.sublist hsublist) hscope
    hat₁ (hown.components.trans hcomponents) hbelow
  -- its own id is none of those below it, so its entry and theirs are apart
  have hall := hown.append hyields (hown.ne_of_disjoint hfits hyields fun x hx hx' =>
    hnodup.2.2 x hx x (hsublist.subset hx') rfl)
  have hat' := hat.mono hall.continues.grows (hall.sameAt hfits)
  refine ⟨_, ?_, hall.mono ?_⟩
  · rw [← ScopeTree.met_of_grows hall.continues.grows (hat.lt s.id), ← staticId?_eq hfits.tree hs]
    refine .plain hat'.document hname hxbl hdata ?_ ?_
    · rw [hall.components]
      exact hcomponent
    · rw [hp.childElements]
      exact hLs
  · rw [s.staticIds_eq]
    exact List.append_subset.2 ⟨List.subset_append_left _ _,
      fun x hx => List.mem_append_right _ (hsublist.subset hx)⟩

/-- The shadow tree of an instance is walked. -/
theorem Surveyed.component (h : Surveyed controls r fuel) (hform : DistinctIds controls r)
    (hfits : S.Fits r) (hat : S.At controls t) (hcomponents : t.components = r)
    (hs : s ∈ S.tree.walked) {name : QName} {id : String} {shadow : ShadowTree}
    (hname : S.document.name? s.id = some name) (hxbl : name.uri ≠ Namespace.xbl)
    (hdata : name.is Namespace.xforms "instance" = false)
    (hcomponent : t.components.isComponent name = true)
    (hid : S.document.staticId? s.id = some id)
    (hshadow : t.components.instantiate S.document s.id (t.prefixedId (S.scopeOf s.id) id)
      (S.scopeOf s.id) t.size = .ok shadow)
    (hinner : resolveAll controls fuel (.shadow (t.prefixedId (S.scopeOf s.id) id)) (S.scopeOf s.id)
      (shadow.document.childElements shadow.document.root)
      ((t.indexAll (S.scopeOf s.id) [id]).enter S.document s.id (S.scopeOf s.id)
        (t.prefixedId (S.scopeOf s.id) id) shadow) = .ok t') :
    ∃ L, Surveys controls t' (fuel + 1) S.source s.id (S.scopeOf s.id) L ∧
      S.Yields t t' s.staticIds L := by
  obtain ⟨hinnerScope, houterScope, b, template, t₀, filled, hi⟩ :=
    exists_instance hfits.grounded hfits.tree hform.single hcomponents hs hname hdata hid hshadow
  have hfits' := hfits.inside hform hi
  have hat₂ := hat.inside s filled id hinnerScope houterScope
  have hkey := hat.prefixedId s.id id
  have hroot : shadow.document.childElements shadow.document.root = _ :=
    hi.fills.document.childElements_root
  have hsublist : ((filled.children.filter fun c => c.kind.isElement).flatMap
      Tree.staticIds).Sublist filled.staticIds := by
    rw [filled.staticIds_eq]
    exact (List.filter_sublist.flatMap Tree.staticIds).trans (List.sublist_append_right _ _)
  have hentered : ((t.indexAll (S.scopeOf s.id) [id]).enter S.document s.id (S.scopeOf s.id)
      (Path.key (S.path s.id) id) shadow).components = r := by
    rw [index_enter_eq S.source (hat.lt s.id)]
    exact hcomponents
  rw [hroot, hkey] at hinner
  obtain ⟨Ls, hLs, hyields⟩ := h.exists_surveys hfits'
    (fun c hc => Tree.exposed_subset_walked (List.mem_of_mem_filter hc) c.self_mem_exposed)
    (hfits'.nodup.sublist hsublist) (fun hcontrols => by contradiction) hat₂ hentered hinner
  -- the walk of the shadow tree leaves the table entry it started from in place
  have hkept := hyields.sameAt hfits' _ rfl
  rw [shadowTree?_enter] at hkept
  rw [← hkey] at hyields
  have hall := Yields.component hfits hat hi hyields
  have hat' := hat.mono hall.continues.grows (hall.sameAt hfits)
  have hprefixed : t'.prefixedId (S.scopeOf s.id) id = Path.key (S.path s.id) id :=
    hat'.prefixedId s.id id
  refine ⟨_, ?_, hall⟩
  rw [← ScopeTree.met_of_grows hall.continues.grows (hat.lt s.id),
    ← ScopeTree.met_of_grows hall.continues.grows (hat.lt s.id)]
  refine .component hat'.document hname hxbl hdata ?_ hid (hprefixed ▸ hkept) ?_
  · rw [hall.components]
    exact hcomponent
  · rw [hroot, hprefixed]
    exact hLs

/-- **The walk from an element** has a survey, by induction on the depth of the walk. -/
theorem surveyed (hform : DistinctIds controls r) (fuel : Nat) : Surveyed controls r fuel := by
  induction fuel with
  | zero =>
    intro S s t t' _ _ _ _ h
    contradiction
  | succ fuel ih =>
    intro S s t t' hfits hat hcomponents hs h
    have hdocument : ∀ {d}, t.document? controls S.source = some d → S.document = d := fun hd =>
      Option.some.inj (hat.document.symm.trans hd)
    cases resolves_of_resolveElement h with
    | @passed d hd hpassed => exact ⟨[], .passed hd hpassed, Yields.nil S t _⟩
    -- the id of the instance of data itself is indexed, what is in it is not walked
    | @data d name hd hname hdata =>
      obtain rfl := hdocument hd
      have hown := Yields.own hfits hat hs
      rw [← staticId?_eq hfits.tree hs] at hown
      have hat' := hat.mono hown.continues.grows (hown.sameAt hfits)
      refine ⟨_, ?_, hown.mono ?_⟩
      · rw [← ScopeTree.met_of_grows hown.continues.grows (hat.lt s.id)]
        exact .data hat'.document hname hdata
      · rw [s.staticIds_eq, staticId?_eq hfits.tree hs]
        exact List.subset_append_left _ _
    | @component d name id shadow t' hd hname hxbl hdata hcomponent hid hshadow hinner =>
      obtain rfl := hdocument hd
      exact ih.component hform hfits hat hcomponents hs hname hxbl hdata hcomponent hid hshadow
        hinner
    | @plain d name t' hd hname hxbl hdata hcomponent hbelow =>
      obtain rfl := hdocument hd
      exact ih.plain hfits hat hcomponents hs hname hxbl hdata hcomponent hbelow

end Site

/-- **The walk over a form with distinct ids** has surveys of the children of the root, which lay out
the whole scope tree. -/
theorem exists_surveys_resolveScopes {controls : Document} {r : ComponentRegistry} {t : ScopeTree}
    (hform : DistinctIds controls r) (h : resolveScopes controls r = .ok t) :
    ∃ tree Ls, List.Forall₂
        (t.SurveysChild (Surveys controls t (walkBound controls r)) .controls 0)
        (controls.childElements controls.root) Ls ∧
      (Site.top controls tree).Yields (ScopeTree.ofComponents r) t tree.staticIds Ls.flatten := by
  obtain ⟨tree, htree, -⟩ := (hform.isForest List.mem_cons_self).exists_hasTree
  have hfits := Site.Fits.top hform htree
  have hroot := htree.childElements_root
  have hsublist : ((tree.children.filter fun c => c.kind.isElement).flatMap
      Tree.staticIds).Sublist tree.staticIds := by
    rw [tree.staticIds_eq]
    exact (List.filter_sublist.flatMap Tree.staticIds).trans (List.sublist_append_right _ _)
  have hwalk : resolveAll controls (walkBound controls r) .controls 0
      ((tree.children.filter fun c => c.kind.isElement).map Tree.id)
      (ScopeTree.ofComponents r) = .ok t := by
    rw [← hroot]
    exact h
  obtain ⟨Ls, hLs, hyields⟩ := (Site.surveyed hform (walkBound controls r)).exists_surveys hfits
    (fun c hc => Tree.exposed_subset_walked (List.mem_of_mem_filter hc) c.self_mem_exposed)
    (hfits.nodup.sublist hsublist) (fun _ => rfl) (Site.At.top controls tree r) rfl hwalk
  refine ⟨tree, Ls, ?_, hyields.mono hsublist.subset⟩
  rw [hroot]
  exact hLs

end FormEngine
