import FormEngine.Proofs.Scope.Parted
/-!
# Scopes and shadow trees go in step

Every instance that a walk enters gets a scope and a shadow tree. The scopes are numbered, the shadow
trees are kept under the prefixed ids of their instances, and a shadow tree is lost when an instance
with the same prefixed id comes later. In a form with separate ids no two instances have the same one,
so nothing is lost: the shadow tree at each position belongs to the scope with the next number.
-/

namespace FormEngine

namespace ScopeTree

/-- The shadow trees are those of the scopes inside of instances, in the same order. Content that
resolves at top level has ids from `topIds`. -/
structure InStep (topIds : List String) (t : ScopeTree) : Prop where
  size : t.size = t.shadowTrees.length + 1
  keys : (t.shadowTrees.map Prod.fst).Nodup
  top : t.scope? 0 = some Scope.top
  scopes : ∀ j e, t.shadowTrees[j]? = some e → e.2.innerScope = j + 1 ∧
    ∃ scope, t.scope? (j + 1) = some scope ∧ scope.scopeId = e.1 ∧ scope.fullPrefix = e.1 ++ "$"
  content : ∀ e ∈ t.shadowTrees, e.2.outerScope = 0 →
    ∀ n ∈ e.2.document.descendants e.2.document.root, e.2.isOuter n = true →
      ∀ x, e.2.document.staticId? n = some x → x ∈ topIds

/-- A walk has entered instances with prefixed ids of which `P` holds, and replaced no shadow tree. -/
structure Unfolds (P : String → Prop) (t t' : ScopeTree) : Prop where
  continues : t.Continues t'
  shadows : ∃ added, t'.shadowTrees = t.shadowTrees ++ added ∧ ∀ e ∈ added, P e.1

variable {P Q : String → Prop} {t t' t'' : ScopeTree} {topIds : List String}

namespace Unfolds

theorem trans (h : t.Unfolds P t') (h' : t'.Unfolds P t'') : t.Unfolds P t'' := by
  obtain ⟨added, hadded, hP⟩ := h.shadows
  obtain ⟨added', hadded', hP'⟩ := h'.shadows
  refine ⟨?_, added ++ added', ?_, List.forall_mem_append.2 ⟨hP, hP'⟩⟩
  · exact ⟨⟨h.continues.grows.scopes.trans h'.continues.grows.scopes,
      h.continues.grows.resolution.trans h'.continues.grows.resolution⟩,
      h'.continues.components.trans h.continues.components⟩
  · rw [hadded', hadded, List.append_assoc]

theorem mono (h : t.Unfolds P t') (hPQ : ∀ key, P key → Q key) : t.Unfolds Q t' := by
  obtain ⟨added, hadded, hP⟩ := h.shadows
  exact ⟨h.continues, added, hadded, fun e he => hPQ e.1 (hP e he)⟩

/-- What was kept under a prefixed id is kept under it still. -/
theorem shadowTree?_eq (h : t.Unfolds P t') {key : String} {s : ShadowTree}
    (hs : t.shadowTree? key = some s) : t'.shadowTree? key = some s := by
  obtain ⟨added, hadded, -⟩ := h.shadows
  rw [shadowTree?] at hs ⊢
  rw [hadded, List.lookup_append, hs, Option.some_or]

theorem sameAt (h : t.Unfolds P t') {controls : Document} {source : Source} {d : Document}
    (hd : t.document? controls source = some d) : t.SameAt t' source := by
  rintro key rfl
  obtain ⟨s, hs, -⟩ := Option.map_eq_some_iff.1 hd
  rw [hs, h.shadowTree?_eq hs]

end Unfolds

/-- Indexing ids enters no instance. -/
theorem unfolds_indexAll (t : ScopeTree) (scope : ScopeId) (ids : List String) :
    t.Unfolds P (t.indexAll scope ids) := by
  refine ⟨⟨.indexAll t scope ids, ?_⟩, [], ?_, List.forall_mem_nil _⟩
  · rw [indexAll_eq]
  · rw [indexAll_eq, List.append_nil]

theorem InStep.indexAll (h : t.InStep topIds) (scope : ScopeId) (ids : List String) :
    (t.indexAll scope ids).InStep topIds := by
  rw [indexAll_eq]
  exact ⟨h.size, h.keys, h.top, h.scopes, h.content⟩

section Enter

variable {d : Document} {n : NodeId} {scope : ScopeId} {id : String} {shadow : ShadowTree}

theorem shadowTrees_enter (d : Document) (n : NodeId) (shadow : ShadowTree)
    (hkey : t.prefixedId scope id ∉ t.shadowTrees.map Prod.fst)
    (hlt : scope < t.size) :
    ((t.indexAll scope [id]).enter d n scope (t.prefixedId scope id) shadow).shadowTrees =
      t.shadowTrees ++ [(t.prefixedId scope id, shadow)] := by
  rw [Site.index_enter_eq .controls hlt]
  exact Json.assign_of_notMem hkey

theorem unfolds_enter (d : Document) (n : NodeId) (shadow : ShadowTree)
    (hkey : t.prefixedId scope id ∉ t.shadowTrees.map Prod.fst)
    (hlt : scope < t.size) (hP : P (t.prefixedId scope id)) :
    t.Unfolds P ((t.indexAll scope [id]).enter d n scope (t.prefixedId scope id) shadow) := by
  refine ⟨⟨?_, ?_⟩, _, shadowTrees_enter d n shadow hkey hlt, List.forall_mem_singleton.2 hP⟩
  · rw [Site.index_enter_eq .controls hlt]
    exact ⟨List.prefix_append _ _, List.suffix_append _ _⟩
  · rw [Site.index_enter_eq .controls hlt]

/-- **A new instance gets the next scope and the next shadow tree.** -/
theorem InStep.enter (h : t.InStep topIds)
    (hkey : t.prefixedId scope id ∉ t.shadowTrees.map Prod.fst) (hlt : scope < t.size)
    (hinner : shadow.innerScope = t.size)
    (hcontent : shadow.outerScope = 0 → ∀ n ∈ shadow.document.descendants shadow.document.root,
      shadow.isOuter n = true → ∀ x, shadow.document.staticId? n = some x → x ∈ topIds) :
    ((t.indexAll scope [id]).enter d n scope (t.prefixedId scope id) shadow).InStep topIds := by
  have hshadows := shadowTrees_enter d n shadow hkey hlt
  have hscopes : ((t.indexAll scope [id]).enter d n scope (t.prefixedId scope id) shadow).scopes =
      t.scopes ++
        [⟨t.size, t.prefixedId scope id, t.prefixedId scope id ++ "$", some scope⟩] := by
    rw [Site.index_enter_eq .controls hlt]
  generalize (t.indexAll scope [id]).enter d n scope (t.prefixedId scope id) shadow = t' at *
  have hold : ∀ k sc, t.scope? k = some sc → t'.scope? k = some sc := by
    intro k sc hk
    have hlt := (List.getElem?_eq_some_iff.1 hk).1
    rw [scope?, hscopes, List.getElem?_append_left hlt]
    exact hk
  refine ⟨?_, ?_, hold 0 _ h.top, fun j e he => ?_, ?_⟩
  · rw [ScopeTree.size, hscopes, hshadows, List.length_append, List.length_append, ← ScopeTree.size,
      h.size]
    rfl
  · rw [hshadows, List.map_append, List.map_singleton, ← List.concat_eq_append]
    exact h.keys.concat hkey
  · rw [hshadows] at he
    rcases Nat.lt_or_ge j t.shadowTrees.length with hj | hj
    · rw [List.getElem?_append_left hj] at he
      obtain ⟨hin, sc, hsc, hid, hprefix⟩ := h.scopes j e he
      exact ⟨hin, sc, hold _ _ hsc, hid, hprefix⟩
    · -- the new shadow tree is the last one
      have hlast : j = t.shadowTrees.length := by
        have hle := (List.getElem?_eq_some_iff.1 he).1
        rw [List.length_append, List.length_singleton] at hle
        exact Nat.le_antisymm (Nat.lt_succ_iff.1 hle) hj
      subst hlast
      rw [List.getElem?_concat_length, Option.some.injEq] at he
      subst he
      refine ⟨hinner.trans h.size, ⟨t.size, _, _, some scope⟩, ?_, rfl, rfl⟩
      rw [scope?, hscopes, ← h.size]
      exact List.getElem?_concat_length
  · rw [hshadows, List.forall_mem_append, List.forall_mem_singleton]
    exact ⟨h.content, hcontent⟩

end Enter

end ScopeTree

namespace Site

variable {S : Site} {r : ComponentRegistry} {controls : Document} {topIds : List String}
  {t t' : ScopeTree} {fuel : Nat} {s : Tree}

/-- No instance so far has a prefixed id that leads to an element of the subtree. -/
def Untouched (S : Site) (s : Tree) (t : ScopeTree) : Prop :=
  ∀ e ∈ t.shadowTrees, ∀ u ∈ s.subtrees, ¬S.Leads u e.1

/-- The walk from an element keeps scopes and shadow trees in step, and enters instances to whose
prefixed ids the element and those in it lead. -/
def Unfolding (controls : Document) (r : ComponentRegistry) (topIds : List String)
    (fuel : Nat) : Prop :=
  ∀ (S : Site) (s : Tree) (t t' : ScopeTree), S.Parted r topIds → S.At controls t →
    t.components = r → t.InStep topIds → s ∈ S.tree.walked → S.Untouched s t →
    resolveElement controls fuel S.source s.id (S.scopeOf s.id) t = .ok t' →
    t'.InStep topIds ∧ t.Unfolds (fun key => ∃ u ∈ s.subtrees, S.Leads u key) t'

/-- Elements are walked one after the other, and none is touched by the walk of another. -/
theorem Unfolding.all (h : Unfolding controls r topIds fuel) (hparted : S.Parted r topIds)
    {cs : List Tree} (hcs : ∀ c ∈ cs, c ∈ S.tree.walked) (hids : (cs.flatMap Tree.ids).Nodup)
    {scope : ScopeId} (hscope : S.source = .controls → scope = S.innerScope)
    (hat : S.At controls t) (hcomponents : t.components = r) (hstep : t.InStep topIds)
    (hfree : ∀ c ∈ cs, S.Untouched c t)
    (hwalk : resolveAll controls fuel S.source scope (cs.map Tree.id) t = .ok t') :
    t'.InStep topIds ∧ t.Unfolds (fun key => ∃ c ∈ cs, ∃ u ∈ c.subtrees, S.Leads u key) t' := by
  induction cs generalizing t with
  | nil =>
    obtain rfl : t = t' := Except.ok.inj hwalk
    exact ⟨hstep, ScopeTree.unfolds_indexAll t 0 []⟩
  | cons c cs ih =>
    rw [List.flatMap_cons, List.nodup_append] at hids
    rw [List.forall_mem_cons] at hcs hfree
    obtain ⟨t₁, hc, hrest⟩ := ok_of_bind hwalk
    simp only [hat.scopeOfChild scope c.id hscope] at hc
    obtain ⟨hstep₁, hunfolds⟩ := h S c t t₁ hparted hat hcomponents hstep hcs.1 hfree.1 hc
    have hat₁ := hat.mono hunfolds.continues.grows (hunfolds.sameAt hat.document)
    have hfree₁ : ∀ c' ∈ cs, S.Untouched c' t₁ := by
      intro c' hc' e he v hv hlead
      obtain ⟨added, hadded, hleads⟩ := hunfolds.shadows
      rw [hadded, List.mem_append] at he
      rcases he with he | he
      · exact hfree.2 c' hc' e he v hv hlead
      · obtain ⟨u, hu, hulead⟩ := hleads e he
        have hsub : ∀ {w c : Tree}, c ∈ S.tree.walked → w ∈ c.subtrees → w ∈ S.tree.subtrees :=
          fun hc hw => Tree.mem_subtrees_trans hw (Tree.walked_subset_subtrees _ hc)
        have heq := hparted.leads_unique (hsub hcs.1 hu) (hsub (hcs.2 c' hc') hv) hulead hlead
        refine hids.2.2 u.id (Tree.ids_subset_of_mem_subtrees hu u.id_mem_ids) v.id ?_ heq
        exact List.mem_flatMap.2 ⟨c', hc', Tree.ids_subset_of_mem_subtrees hv v.id_mem_ids⟩
    obtain ⟨hstep', hunfolds'⟩ := ih hcs.2 hids.2.1 hat₁
      (hunfolds.continues.components.trans hcomponents) hstep₁ hfree₁ hrest
    refine ⟨hstep', (hunfolds.mono fun key => ?_).trans (hunfolds'.mono fun key => ?_)⟩
    · rintro ⟨u, hu, hlead⟩
      exact ⟨c, List.mem_cons_self, u, hu, hlead⟩
    · rintro ⟨c', hc', hlead⟩
      exact ⟨c', List.mem_cons_of_mem c hc', hlead⟩

theorem nodup_ids_children (hparted : S.Parted r topIds) (hs : s ∈ S.tree.subtrees) :
    ((s.children.filter fun c => c.kind.isElement).flatMap Tree.ids).Nodup := by
  have hnodup := hparted.nodup_ids.sublist (Tree.sublist_ids_of_mem_subtrees hs)
  cases s with
  | node n kind ts =>
    rw [Tree.ids_node, List.nodup_cons] at hnodup
    exact hnodup.2.sublist (List.filter_sublist.flatMap Tree.ids)

/-- An element that is no instance is walked through. -/
theorem Unfolding.plain (h : Unfolding controls r topIds fuel) (hparted : S.Parted r topIds)
    (hat : S.At controls t) (hcomponents : t.components = r) (hstep : t.InStep topIds)
    (hs : s ∈ S.tree.walked) (hfree : S.Untouched s t) {name : QName}
    (hname : S.document.name? s.id = some name)
    (hdata : name.is Namespace.xforms "instance" = false)
    (hbelow : resolveAll controls fuel S.source (S.scopeOf s.id) (S.document.childElements s.id)
      (t.indexAll (S.scopeOf s.id) (S.document.staticId? s.id).toList) = .ok t') :
    t'.InStep topIds ∧ t.Unfolds (fun key => ∃ u ∈ s.subtrees, S.Leads u key) t' := by
  have hsub := Tree.walked_subset_subtrees S.tree hs
  obtain ⟨p, hp⟩ := hparted.tree.holds.subtree hsub
  rw [hp.childElements] at hbelow
  have hown : t.Unfolds (fun key => ∃ u ∈ s.subtrees, S.Leads u key) _ :=
    ScopeTree.unfolds_indexAll t (S.scopeOf s.id) (S.document.staticId? s.id).toList
  have hat₁ := hat.mono hown.continues.grows (hown.sameAt hat.document)
  have hwalked : ∀ c ∈ s.children.filter fun c => c.kind.isElement, c ∈ S.tree.walked := by
    intro c hc
    exact Tree.exposed_subset_walked_of_child hs ((isData_eq hparted.tree hs hname).trans hdata)
      (List.mem_of_mem_filter hc) c.self_mem_exposed
  have hscope : S.source = .controls → S.scopeOf s.id = S.innerScope := by
    intro hcontrols
    rw [scopeOf, hparted.controls hcontrols]
    rfl
  have hbelow' : ∀ c ∈ s.children.filter fun c => c.kind.isElement, ∀ u ∈ c.subtrees,
      u ∈ s.subtrees := fun c hc u hu =>
    Tree.mem_subtrees_of_below (List.mem_of_mem_filter hc) hu
  obtain ⟨hstep', hunfolds⟩ := h.all hparted hwalked (nodup_ids_children hparted hsub) hscope hat₁
    (hown.continues.components.trans hcomponents) (hstep.indexAll _ _) (fun c hc e he u hu => by
      rw [ScopeTree.indexAll_eq] at he
      exact hfree e he u (hbelow' c hc u hu)) hbelow
  refine ⟨hstep', hown.trans (hunfolds.mono ?_)⟩
  rintro key ⟨c, hc, u, hu, hlead⟩
  exact ⟨u, hbelow' c hc u hu, hlead⟩

/-- In the shadow tree of an instance whose content resolves at top level, the content has ids from
the top. -/
theorem Instance.mem_topIds {b : Binding} {template : Document} {shadow : ShadowTree}
    {t₀ filled : Tree} {id : String} (hi : S.Instance r s id b template shadow t₀ filled)
    (hform : SeparateIds controls r)
    (hlinks : Expansion.Links template template.insertionPoints
      ⟨shadow.document, shadow.outerNodes⟩)
    (hparted : (S.inside s id shadow filled).Parted r topIds) (hzero : shadow.outerScope = 0)
    {n : NodeId} (hn : n ∈ shadow.document.descendants shadow.document.root)
    (houter : shadow.isOuter n = true) {x : String} (hx : shadow.document.staticId? n = some x) :
    x ∈ topIds := by
  obtain ⟨u, hu, rfl⟩ :=
    Tree.exists_subtree_of_mem_ids (hi.fills.document.mem_descendants_root.1 hn).1
  obtain ⟨p, hp⟩ := hi.fills.document.holds.subtree hu
  refine hparted.rooted u hu ?_ ?_ x (hp.staticId?.symm.trans hx)
  · -- the root is a node of the template
    intro heq
    have hge := ((hi.fills.outer u.id).1 (ShadowTree.isOuter_iff.1 houter)).1
    have hroot : u.id = template.root := by
      rw [heq]
      exact hi.fills.document.root.trans hlinks.root
    rw [hroot] at hge
    exact absurd (hform.isForest (hi.mem_documents controls)).root_lt (Nat.not_lt.2 hge)
  · show (if shadow.isOuter u.id then shadow.outerScope else shadow.innerScope) = 0
    rw [houter, if_pos rfl, hzero]

/-- When an instance is entered, no instance so far leads to what stands in its shadow tree. -/
theorem Instance.untouched {b : Binding} {template : Document} {shadow : ShadowTree}
    {t₀ filled c : Tree} {id : String} (hi : S.Instance r s id b template shadow t₀ filled)
    (hparted : S.Parted r topIds) (hfree : S.Untouched s t)
    (hshadows : t'.shadowTrees = t.shadowTrees ++ [(Path.key (S.path s.id) id, shadow)])
    (hbelow : ∀ u ∈ c.subtrees, u ∈ filled.subtrees) :
    (S.inside s id shadow filled).Untouched c t' := by
  intro e he u hu hleads
  rw [hshadows, List.mem_append, List.mem_singleton] at he
  rcases he with he | rfl
  · obtain ⟨w, hw, hwlead⟩ := hi.exists_leads hparted (hbelow u hu) hleads
    exact hfree e he w hw hwlead
  · exact hi.not_leads_key hparted (hbelow u hu) hleads

/-- The shadow tree of an instance is walked. -/
theorem Unfolding.component (h : Unfolding controls r topIds fuel)
    (hform : SeparateIds controls r) (hparted : S.Parted r topIds) (hat : S.At controls t)
    (hcomponents : t.components = r) (hstep : t.InStep topIds) (hs : s ∈ S.tree.walked)
    (hfree : S.Untouched s t) {name : QName} {id : String} {shadow : ShadowTree}
    (hname : S.document.name? s.id = some name)
    (hdata : name.is Namespace.xforms "instance" = false)
    (hid : S.document.staticId? s.id = some id)
    (hshadow : t.components.instantiate S.document s.id (t.prefixedId (S.scopeOf s.id) id)
      (S.scopeOf s.id) t.size = .ok shadow)
    (hinner : resolveAll controls fuel (.shadow (t.prefixedId (S.scopeOf s.id) id)) (S.scopeOf s.id)
      (shadow.document.childElements shadow.document.root)
      ((t.indexAll (S.scopeOf s.id) [id]).enter S.document s.id (S.scopeOf s.id)
        (t.prefixedId (S.scopeOf s.id) id) shadow) = .ok t') :
    t'.InStep topIds ∧ t.Unfolds (fun key => ∃ u ∈ s.subtrees, S.Leads u key) t' := by
  obtain ⟨hinnerScope, houterScope, b, template, t₀, filled, hi⟩ :=
    exists_instance hparted.forest.grounded hparted.tree hform.single hcomponents hs hname hdata hid
      hshadow
  have hlinks := hi.links hform hparted (hcomponents ▸ hshadow)
  have hpositive : shadow.innerScope ≠ 0 := by
    rw [hinnerScope, hstep.size]
    exact Nat.succ_ne_zero _
  have hparted' := hparted.inside hform hi hlinks hpositive houterScope
  have hkey := hat.prefixedId s.id id
  have hlead := hi.leads_key hparted
  -- an instance with this prefixed id before would have touched the element
  have hnew : t.prefixedId (S.scopeOf s.id) id ∉ t.shadowTrees.map Prod.fst := by
    intro hmem
    obtain ⟨e, he, heq⟩ := List.mem_map.1 hmem
    refine hfree e he s s.self_mem_subtrees ?_
    rw [heq, hkey]
    exact hlead
  have hentered := ScopeTree.unfolds_enter S.document s.id shadow
    (P := fun key => ∃ u ∈ s.subtrees, S.Leads u key) hnew (hat.lt s.id)
    ⟨s, s.self_mem_subtrees, hkey ▸ hlead⟩
  have hstep₁ := hstep.enter (d := S.document) (n := s.id) hnew (hat.lt s.id) hinnerScope
    fun hzero n hn houter x hx => hi.mem_topIds hform hlinks hparted' hzero hn houter hx
  have hshadows := ScopeTree.shadowTrees_enter S.document s.id shadow hnew (hat.lt s.id)
  have hat₁ := hat.inside s filled id hinnerScope houterScope
  rw [hi.fills.document.childElements_root] at hinner
  rw [← hkey] at hat₁
  have hbelow : ∀ c ∈ filled.children.filter fun c => c.kind.isElement, ∀ u ∈ c.subtrees,
      u ∈ filled.subtrees := fun c hc u hu =>
    Tree.mem_subtrees_of_below (List.mem_of_mem_filter hc) hu
  have hfree' : ∀ c ∈ filled.children.filter fun c => c.kind.isElement,
      (S.inside s id shadow filled).Untouched c
        ((t.indexAll (S.scopeOf s.id) [id]).enter S.document s.id (S.scopeOf s.id)
          (t.prefixedId (S.scopeOf s.id) id) shadow) :=
    fun c hc => hi.untouched hparted hfree (hkey ▸ hshadows) (hbelow c hc)
  have hsource : (S.inside s id shadow filled).source =
      .shadow (t.prefixedId (S.scopeOf s.id) id) := by
    rw [hkey]
    rfl
  rw [← hsource] at hinner
  obtain ⟨hstep', hunfolds⟩ := h.all hparted'
    (fun c hc => Tree.exposed_subset_walked (List.mem_of_mem_filter hc) c.self_mem_exposed)
    (nodup_ids_children hparted' filled.self_mem_subtrees) (fun hcontrols => by contradiction) hat₁
    (hentered.continues.components.trans hcomponents) hstep₁ hfree' hinner
  refine ⟨hstep', hentered.trans (hunfolds.mono ?_)⟩
  rintro key ⟨c, hc, u, hu, hleads⟩
  exact hi.exists_leads hparted (hbelow c hc u hu) hleads

/-- **Scopes and shadow trees stay in step**, by induction on the depth of the walk. -/
theorem unfolding (hform : SeparateIds controls r) (topIds : List String) (fuel : Nat) :
    Unfolding controls r topIds fuel := by
  induction fuel with
  | zero =>
    intro S s t t' _ _ _ _ _ _ h
    contradiction
  | succ fuel ih =>
    intro S s t t' hparted hat hcomponents hstep hs hfree h
    have hdocument : ∀ {d}, t.document? controls S.source = some d → S.document = d := fun hd =>
      Option.some.inj (hat.document.symm.trans hd)
    cases resolves_of_resolveElement h with
    | passed => exact ⟨hstep, ScopeTree.unfolds_indexAll t 0 []⟩
    | data => exact ⟨hstep.indexAll _ _, ScopeTree.unfolds_indexAll _ _ _⟩
    | @component d name id shadow t' hd hname hxbl hdata hcomponent hid hshadow hinner =>
      obtain rfl := hdocument hd
      exact ih.component hform hparted hat hcomponents hstep hs hfree hname hdata hid hshadow hinner
    | @plain d name t' hd hname hxbl hdata hcomponent hbelow =>
      obtain rfl := hdocument hd
      exact ih.plain hparted hat hcomponents hstep hs hfree hname hdata hbelow

end Site

/-- **In a form with separate ids scopes and shadow trees go in step**: no shadow tree is lost. -/
theorem inStep_resolveScopes {controls : Document} {r : ComponentRegistry} {t : ScopeTree}
    (hform : SeparateIds controls r) (h : resolveScopes controls r = .ok t) {tree : Tree}
    (htree : controls.HasTree tree) :
    t.InStep (tree.children.flatMap Tree.staticIds) := by
  have hparted := Site.Parted.top hform htree
  have hroot := htree.childElements_root
  have hwalk : resolveAll controls (walkBound controls r) .controls 0
      ((tree.children.filter fun c => c.kind.isElement).map Tree.id)
      (ScopeTree.ofComponents r) = .ok t := by
    rw [← hroot]
    exact h
  have hstart : (ScopeTree.ofComponents r).InStep (tree.children.flatMap Tree.staticIds) :=
    ⟨rfl, List.nodup_nil, rfl, fun j e he => by simp [ScopeTree.ofComponents] at he,
      fun e he => by simp [ScopeTree.ofComponents] at he⟩
  refine ((Site.unfolding hform _ (walkBound controls r)).all hparted ?_
    (Site.nodup_ids_children hparted tree.self_mem_subtrees) (fun _ => rfl)
    (Site.At.top controls tree r) rfl hstart ?_ hwalk).1
  · exact fun c hc =>
      Tree.exposed_subset_walked (List.mem_of_mem_filter hc) c.self_mem_exposed
  · exact fun c _ e he => by simp [ScopeTree.ofComponents] at he

end FormEngine
