import FormEngine.Proofs.Scope.Site
/-!
# The site of a shadow tree

The shadow tree of an instance that is walked in a site is a site again. Its ids are those of the
template and of the content of the instance, which are distinct: the content was written somewhere
around the instance, and nothing that the instance leads to has been written there, because no
binding reaches itself. A prefixed id that comes up in the shadow tree belongs, in the site around
it, to the id of the instance or to one of its content.
-/

namespace FormEngine

namespace Site

variable {S : Site} {r : ComponentRegistry} {controls : Document} {t : ScopeTree}
  {s t₀ filled : Tree} {id : String} {b : Binding} {template : Document} {shadow : ShadowTree}

/-- The site of the shadow tree of the instance `s`. -/
def inside (S : Site) (s : Tree) (id : String) (shadow : ShadowTree) (filled : Tree) : Site :=
  { source := .shadow (Path.key (S.path s.id) id)
    document := shadow.document
    tree := filled
    isOuter := shadow.isOuter
    innerScope := shadow.innerScope
    outerScope := shadow.outerScope
    inner := S.path s.id ++ [id]
    outer := S.path s.id }

/-- The element `s` of the site is an instance of the binding `b`, and the template of `b`, with
tree `t₀`, has been filled with its content. -/
structure Instance (r : ComponentRegistry) (S : Site) (s : Tree) (id : String) (b : Binding)
    (template : Document) (shadow : ShadowTree) (t₀ filled : Tree) : Prop where
  walked : s ∈ S.tree.walked
  data : s.kind.isData = false
  staticId : s.kind.staticId? = some id
  bound : ∃ name, s.kind.name? = some name ∧ r.binding? name = some b
  original : template ∈ b.template
  fills : Expansion.Fills ⟨shadow.document, shadow.outerNodes⟩ template s.content t₀ filled

namespace Instance

/-! ## The instance in the site around it -/

theorem mem_subtrees (hi : S.Instance r s id b template shadow t₀ filled) : s ∈ S.tree.subtrees :=
  Tree.walked_subset_subtrees S.tree hi.walked

theorem mem_bindings (hi : S.Instance r s id b template shadow t₀ filled) : b ∈ r.bindings := by
  obtain ⟨name, -, hbinding⟩ := hi.bound
  exact ComponentRegistry.mem_of_binding? hbinding

theorem mem_documents (hi : S.Instance r s id b template shadow t₀ filled) (controls : Document) :
    template ∈ r.documents controls :=
  ComponentRegistry.mem_documents hi.mem_bindings hi.original controls

theorem isPlain (hi : S.Instance r s id b template shadow t₀ filled) (h : S.Spelled) : IsPlain id :=
  h.plain s hi.walked id hi.staticId

theorem mem_staticIds (hi : S.Instance r s id b template shadow t₀ filled) : id ∈ s.staticIds :=
  Tree.mem_staticIds.2 ⟨s, Tree.self_mem_subtrees s, hi.staticId⟩

/-- The id of an instance is not among the ids below it, which are distinct. -/
theorem nodup (hi : S.Instance r s id b template shadow t₀ filled) (h : S.Fits r) :
    id ∉ s.children.flatMap Tree.staticIds ∧ (s.children.flatMap Tree.staticIds).Nodup := by
  have hnodup := h.nodup.sublist (Tree.staticIds_sublist_of_mem_subtrees hi.mem_subtrees)
  rw [Tree.staticIds_eq, hi.staticId, Option.toList_some, List.singleton_append] at hnodup
  exact List.nodup_cons.1 hnodup

/-- What is below the instance has no id of a template that the instance leads to. -/
theorem disjoint (hi : S.Instance r s id b template shadow t₀ filled) (h : S.Fits r)
    {b' : Binding} (hreach : Relation.ReflTransGen r.Uses b b') {template' : Document}
    (htemplate' : template' ∈ b'.template) :
    (s.children.flatMap Tree.staticIds).Disjoint template'.staticIds := by
  obtain ⟨name, hname, hbinding⟩ := hi.bound
  exact h.disjoint s hi.walked name b hname hbinding b' hreach template' htemplate'

/-! ## The copies of the content -/

theorem mem_content_of_mem_copies {x : String} {k : Nat}
    (hx : x ∈ (Tree.renumberAll k s.content).flatMap Tree.staticIds) :
    x ∈ s.content.flatMap Tree.staticIds := by
  rwa [Tree.staticIds_renumberAll] at hx

/-- An element that is walked in a copy is a copy of one that is walked in the site. -/
theorem exists_copied (hi : S.Instance r s id b template shadow t₀ filled) {u v : Tree}
    (hu : u ∈ Tree.renumberAll template.size s.content) (hv : v ∈ u.exposed) :
    ∃ w ∈ S.tree.walked, ∃ j, v = w.renumber j := by
  obtain ⟨c, hc, j, -, rfl⟩ := Tree.mem_renumberAll hu
  obtain ⟨w, hw, i, rfl⟩ := Tree.mem_exposed_renumber hv
  exact ⟨w, Tree.exposed_subset_walked_of_child hi.walked hi.data (List.mem_of_mem_filter hc) hw, i,
    rfl⟩

/-- Below a copy there are copies only. -/
theorem size_le_of_mem_subtrees (hi : S.Instance r s id b template shadow t₀ filled)
    {parent : Option NodeId} {u v : Tree} (hu : shadow.document.Holds parent u)
    (hge : template.size ≤ u.id) (hv : v ∈ u.subtrees) : template.size ≤ v.id := by
  induction u generalizing parent with
  | node n kind ts ih =>
    rcases Tree.mem_subtrees.1 hv with rfl | ⟨c, hc, hv⟩
    · exact hge
    · refine ih c hc (hu.child c hc) (hi.fills.below n hge c.id ?_) hv
      have hchildren : shadow.document.children n = ts.map Tree.id := hu.children
      show c.id ∈ shadow.document.children n
      rw [hchildren]
      exact List.mem_map_of_mem hc

theorem mem_content_of_mem_outerIds (hi : S.Instance r s id b template shadow t₀ filled)
    {x : String} (hx : x ∈ (S.inside s id shadow filled).outerIds) :
    x ∈ s.content.flatMap Tree.staticIds := by
  obtain ⟨u, hu, houter, hux⟩ := Tree.mem_idsWhere.1 hx
  have hge := ((hi.fills.outer u.id).1 (ShadowTree.isOuter_iff.1 houter)).1
  rcases hi.fills.filledWith.subtrees u hu with ⟨v, hv, hid, -⟩ | ⟨v, hv, huv⟩
  · -- a node of the template has a smaller address
    have hlt := hi.fills.original.holds.lt_of_mem_ids
      (Tree.ids_subset_of_mem_subtrees hv v.id_mem_ids)
    rw [← hid] at hlt
    exact absurd hge (Nat.not_le.2 hlt)
  · have hmem := Tree.mem_staticIds.2 ⟨u, huv, hux⟩
    exact mem_content_of_mem_copies (List.mem_flatMap.2 ⟨v, hv, hmem⟩)

/-- Below content of the shadow tree there is content. -/
theorem closed (hi : S.Instance r s id b template shadow t₀ filled) {u : Tree}
    (hu : u ∈ filled.subtrees) (houter : shadow.isOuter u.id = true) :
    u.staticIds ⊆ (S.inside s id shadow filled).outerIds := by
  intro x hx
  obtain ⟨v, hv, hvx⟩ := Tree.mem_staticIds.1 hx
  have hvsub := Tree.mem_subtrees_trans hv hu
  obtain ⟨p, hp⟩ := hi.fills.document.holds.subtree hu
  obtain ⟨q, hq⟩ := hi.fills.document.holds.subtree hvsub
  have hge := ((hi.fills.outer u.id).1 (ShadowTree.isOuter_iff.1 houter)).1
  have helement : shadow.document.isElement v.id = true := by
    rw [hq.isElement]
    exact NodeKind.isElement_of_staticId? hvx
  have hvouter := (hi.fills.outer v.id).2 ⟨hi.size_le_of_mem_subtrees hp hge hv, helement⟩
  exact Tree.mem_idsWhere.2 ⟨v, hvsub, ShadowTree.isOuter_iff.2 hvouter, hvx⟩

/-! ## The ids of the shadow tree -/

theorem mem_or_mem (hi : S.Instance r s id b template shadow t₀ filled) {x : String}
    (hx : x ∈ filled.staticIds) :
    x ∈ template.staticIds ∨ x ∈ s.children.flatMap Tree.staticIds := by
  rw [hi.fills.original.staticIds]
  exact (hi.fills.filledWith.mem_or_mem hx).imp_right fun hcopy =>
    s.content_subset (mem_content_of_mem_copies hcopy)

theorem nodup_filled (hi : S.Instance r s id b template shadow t₀ filled) (h : S.Fits r)
    (hform : DistinctIds controls r) : filled.staticIds.Nodup := by
  refine hi.fills.filledWith.nodup
    (hform.nodup_staticIds (hi.mem_documents controls) hi.fills.original) ?_ ?_
  · rw [Tree.staticIds_renumberAll]
    exact (hi.nodup h).2.sublist (List.filter_sublist.flatMap Tree.staticIds)
  · intro x hx hcopy
    rw [← hi.fills.original.staticIds] at hx
    exact hi.disjoint h .refl hi.original (s.content_subset (mem_content_of_mem_copies hcopy)) hx

theorem plain_filled (hi : S.Instance r s id b template shadow t₀ filled) (h : S.Spelled)
    (hform : PlainIds controls r) {v : Tree} (hv : v ∈ filled.walked) {x : String}
    (hx : v.kind.staticId? = some x) : IsPlain x := by
  rcases hi.fills.filledWith.walked v hv with ⟨w, hw, hkind⟩ | ⟨u, hu, hv⟩
  · rw [hkind] at hx
    exact hform.isPlain_of_mem_walked (hi.mem_documents controls) hi.fills.original hw hx
  · obtain ⟨w, hw, j, rfl⟩ := hi.exists_copied hu hv
    rw [Tree.kind_renumber] at hx
    exact h.plain w hw x hx

/-- An instance in the shadow tree is written in the template, and leads to other bindings only, or
it is a copy of an instance in the site. -/
theorem disjoint_filled (hi : S.Instance r s id b template shadow t₀ filled) (h : S.Fits r)
    (hform : DistinctIds controls r) {v : Tree} (hv : v ∈ filled.walked) {name : QName}
    {b' b'' : Binding} (hname : v.kind.name? = some name) (hbinding : r.binding? name = some b')
    (hreach : Relation.ReflTransGen r.Uses b' b'') {template' : Document}
    (htemplate' : template' ∈ b''.template) :
    (v.children.flatMap Tree.staticIds).Disjoint template'.staticIds := by
  intro x hx hx'
  rcases hi.fills.filledWith.walked v hv with ⟨w, hw, hkind⟩ | ⟨u, hu, hv'⟩
  · -- written in the template: its binding is used by `b`, so it leads back to neither
    rw [hkind] at hname
    have huses : r.Uses b b' :=
      DistinctIds.uses_of_mem_walked hi.original hi.fills.original hw hname hbinding
    have hmem := Tree.children_staticIds_subset (Tree.walked_subset_subtrees filled hv) hx
    rcases hi.mem_or_mem hmem with hold | hcopy
    · have hb'' := ComponentRegistry.mem_of_reaches (ComponentRegistry.mem_of_binding? hbinding) hreach
      exact hform.disjoint_templates hi.mem_bindings hb'' (hform.ne_of_reaches huses hreach)
        hi.original htemplate' hold hx'
    · exact hi.disjoint h (.head huses hreach) htemplate' hcopy hx'
  · obtain ⟨w, hw, j, rfl⟩ := hi.exists_copied hu hv'
    rw [Tree.kind_renumber] at hname
    rw [Tree.children_staticIds_renumber] at hx
    exact h.disjoint w hw name b' hname hbinding b'' hreach template' htemplate' hx hx'

end Instance

theorem Spelled.inside (h : S.Spelled) (hform : PlainIds controls r)
    (hi : S.Instance r s id b template shadow t₀ filled) :
    (S.inside s id shadow filled).Spelled where
  tree := hi.fills.document
  plain _ hv _ hx := hi.plain_filled h hform hv hx
  paths := by
    refine ⟨?_, h.path_plain s.id⟩
    show ∀ i ∈ S.path s.id ++ [id], IsPlain i
    rw [List.forall_mem_append, List.forall_mem_singleton]
    exact ⟨h.path_plain s.id, hi.isPlain h⟩
  controls hcontrols := by contradiction
  key key hkey := by
    obtain rfl := Source.shadow.inj hkey
    exact Path.names_key (h.path_plain s.id) (hi.isPlain h)

/-- **The shadow tree of an instance is a site again.** -/
theorem Fits.inside (h : S.Fits r) (hform : DistinctIds controls r)
    (hi : S.Instance r s id b template shadow t₀ filled) :
    (S.inside s id shadow filled).Fits r where
  toSpelled := h.toSpelled.inside hform.toPlainIds hi
  grounded := hi.fills.grounded
  nodup := hi.nodup_filled h hform
  apart x hx path hinner houter := by
    -- an id of the content continues the path of the instance by itself, `id` is not among them
    obtain rfl : id = x := Path.concat_prefix_inj hinner houter
    exact (hi.nodup h).1 (s.content_subset (hi.mem_content_of_mem_outerIds hx))
  closed _ hu houter := hi.closed hu houter
  disjoint _ hv _ _ hname hbinding _ hreach _ htemplate' :=
    hi.disjoint_filled h hform hv hname hbinding hreach htemplate'

/-! ## Prefixed ids in the shadow tree -/

namespace Instance

/-- A prefixed id in the shadow tree goes on from that of the instance, or is one of the content. -/
theorem exists_path (hi : S.Instance r s id b template shadow t₀ filled) {x key : String}
    (h : (S.inside s id shadow filled).Owns x key) :
    ∃ path, Path.Names key path ∧ (S.path s.id ++ [id] ++ [x] <+: path ∨
      x ∈ s.content.flatMap Tree.staticIds ∧ S.path s.id ++ [x] <+: path) := by
  obtain ⟨path, hpath, hcase⟩ := h
  exact ⟨path, hpath, hcase.imp_right fun hout =>
    ⟨hi.mem_content_of_mem_outerIds hout.1, hout.2⟩⟩

/-- So it belongs to an id of the instance or of its content. -/
theorem exists_owner (hi : S.Instance r s id b template shadow t₀ filled) (h : S.Fits r)
    {x key : String} (howns : (S.inside s id shadow filled).Owns x key) :
    ∃ y ∈ s.staticIds, S.Owns y key := by
  obtain ⟨path, hpath, hin | ⟨hmem, hout⟩⟩ := hi.exists_path howns
  · exact ⟨id, hi.mem_staticIds, h.owns_of_path hi.mem_subtrees hpath hi.mem_staticIds
      ((List.prefix_append _ _).trans hin)⟩
  · have hx : x ∈ s.staticIds :=
      Tree.children_staticIds_subset (Tree.self_mem_subtrees s) (s.content_subset hmem)
    exact ⟨x, hx, h.owns_of_path hi.mem_subtrees hpath hx hout⟩

/-- It is no prefixed id that the instance gives out itself, for its own id or for a handler. -/
theorem not_owns (hi : S.Instance r s id b template shadow t₀ filled) (h : S.Fits r) {x y : String}
    (hplain : IsPlain y) (hy : y ∉ s.content.flatMap Tree.staticIds) :
    ¬(S.inside s id shadow filled).Owns x (Path.key (S.path s.id) y) := by
  intro howns
  obtain ⟨path, hpath, hcase⟩ := hi.exists_path howns
  obtain rfl := hpath.unique (Path.names_key (h.path_plain s.id) hplain)
  rcases hcase with hin | ⟨hmem, hout⟩
  · -- a path below the instance is longer than the one the instance gives out
    have hlength := hin.length_le
    simp at hlength
  · obtain rfl := Path.concat_prefix_inj hout List.prefix_rfl
    exact hy hmem

end Instance

/-! ## The instances that a walk comes to -/

theorem isData_eq (htree : S.document.HasTree S.tree) (hs : s ∈ S.tree.walked) {name : QName}
    (hname : S.document.name? s.id = some name) :
    s.kind.isData = name.is Namespace.xforms "instance" := by
  obtain ⟨p, hp⟩ := htree.holds.subtree (Tree.walked_subset_subtrees S.tree hs)
  rw [hp.name?] at hname
  rw [NodeKind.isData, hname, Option.any_some]

theorem staticId?_eq (htree : S.document.HasTree S.tree) (hs : s ∈ S.tree.walked) :
    S.document.staticId? s.id = s.kind.staticId? := by
  obtain ⟨p, hp⟩ := htree.holds.subtree (Tree.walked_subset_subtrees S.tree hs)
  exact hp.staticId?

/-- An instance stands in the site with its shadow tree filled. -/
theorem exists_instance (hgrounded : S.document.Grounded) (htree : S.document.HasTree S.tree)
    (htemplates : ∀ name template, r.template? name = some template →
      template.IsForest ∧ template.insertionPoints.length ≤ 1)
    (hcomponents : t.components = r) (hs : s ∈ S.tree.walked) {name : QName} {key : String}
    {scope innerScope : ScopeId} (hname : S.document.name? s.id = some name)
    (hdata : name.is Namespace.xforms "instance" = false)
    (hid : S.document.staticId? s.id = some id)
    (hshadow : t.components.instantiate S.document s.id key scope innerScope = .ok shadow) :
    shadow.innerScope = innerScope ∧ shadow.outerScope = scope ∧
      ∃ b template t₀ filled, S.Instance r s id b template shadow t₀ filled := by
  have hsub := Tree.walked_subset_subtrees S.tree hs
  obtain ⟨p, hp⟩ := htree.holds.subtree hsub
  have hheight : s.height ≤ S.document.size :=
    Nat.le_trans (Tree.height_le_of_mem_subtrees hsub) htree.height
  have hleaf : s.TextIsLeaf := fun u hu => htree.leaf u (Tree.mem_subtrees_trans hu hsub)
  rw [hcomponents] at hshadow
  obtain ⟨name', template, t₀, filled, hname', htemplate, hinnerScope, houterScope, hfills⟩ :=
    ComponentRegistry.fills_of_instantiate hshadow hgrounded hp hheight hleaf htemplates
  obtain ⟨b, hbinding, hmem⟩ := ComponentRegistry.template?_eq_some htemplate
  rw [staticId?_eq htree hs] at hid
  exact ⟨hinnerScope, houterScope, b, template, t₀, filled, hs,
    (isData_eq htree hs hname).trans hdata, hid, ⟨name', hname', hbinding⟩, hmem, hfills⟩

/-! ## The scope tree at an instance -/

/-- Entering an instance adds a scope, the entries of the instance and of its handlers, and a
shadow tree. -/
theorem index_enter_eq {d : Document} {n : NodeId} {scope : ScopeId} {id key : String}
    {shadow : ShadowTree} (source : Source) (hlt : scope < t.size) :
    (t.indexAll scope [id]).enter d n scope key shadow = { t with
      scopes := t.scopes ++ [⟨t.size, key, key ++ "$", some scope⟩]
      resolution := ((t.met source n scope .component id ::
        (d.handlerIds n).map (t.met source n scope .handler)).map Met.entry).reverse ++ t.resolution
      shadowTrees := Json.assign key shadow t.shadowTrees } := by
  have hcreated : ((t.indexAll scope [id]).createScope scope key).prefixedId scope =
      t.prefixedId scope := by
    funext x
    have hgrows : t.Grows ((t.indexAll scope [id]).createScope scope key) := by
      rw [ScopeTree.indexAll_eq]
      exact ⟨List.prefix_append _ _, List.suffix_append _ _⟩
    exact ScopeTree.prefixedId_of_grows hgrows hlt x
  have hentries : ((t.met source n scope .component id ::
      (d.handlerIds n).map (t.met source n scope .handler)).map Met.entry).reverse ++ t.resolution =
      ((d.handlerIds n).map fun h => (t.prefixedId scope h, scope)).reverse ++
        ((t.prefixedId scope id, scope) :: t.resolution) := by
    rw [List.map_cons, List.map_map, List.reverse_cons, List.append_assoc]
    rfl
  rw [ScopeTree.enter_eq, hcreated, ScopeTree.indexAll_eq, hentries]
  rfl

theorem shadowTree?_enter (d : Document) (n : NodeId) (scope : ScopeId) (key : String)
    (shadow : ShadowTree) : (t.enter d n scope key shadow).shadowTree? key = some shadow := by
  rw [ScopeTree.enter_eq]
  show (Json.assign key shadow t.shadowTrees).lookup key = some shadow
  rw [lookup_assign, if_pos rfl]

/-- The new scope tree knows the site of the new shadow tree. -/
theorem At.inside (h : S.At controls t) (s filled : Tree) (id : String) {shadow : ShadowTree}
    (hinner : shadow.innerScope = t.size) (houter : shadow.outerScope = S.scopeOf s.id) :
    (S.inside s id shadow filled).At controls
      ((t.indexAll (S.scopeOf s.id) [id]).enter S.document s.id (S.scopeOf s.id)
        (Path.key (S.path s.id) id) shadow) := by
  have hlt := h.lt s.id
  have hshadow := shadowTree?_enter (t := t.indexAll (S.scopeOf s.id) [id]) S.document s.id
    (S.scopeOf s.id) (Path.key (S.path s.id) id) shadow
  refine ⟨?_, fun scope c _ => ?_, fun n => ?_⟩
  · show Option.map _ _ = _
    rw [hshadow]
    rfl
  · show Option.map _ _ = _
    rw [hshadow]
    rfl
  · rw [index_enter_eq S.source hlt]
    show ∃ sc, (t.scopes ++ _)[if shadow.isOuter n then shadow.outerScope else shadow.innerScope]? =
      some sc ∧ sc.fullPrefix =
        Path.spell (if shadow.isOuter n then S.path s.id else S.path s.id ++ [id])
    -- content keeps the scope of the instance, the rest is in the new one at the end of the list
    cases shadow.isOuter n with
    | true =>
      obtain ⟨sc, hsc, hspell⟩ := h.scope s.id
      refine ⟨sc, ?_, hspell⟩
      rw [if_pos rfl, houter, List.getElem?_append_left hlt]
      exact hsc
    | false =>
      rw [if_neg Bool.false_ne_true, if_neg Bool.false_ne_true, hinner]
      exact ⟨_, List.getElem?_concat_length, (Path.spell_concat (S.path s.id) id).symm⟩

end Site

end FormEngine
