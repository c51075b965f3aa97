import FormEngine.Proofs.Component.Links
import FormEngine.Proofs.Scope.Inside
/-!
# Sites with two kinds of elements

In a form where each document has distinct ids, a shadow tree may well have an id twice: once in the
template and once in the content, which was written in another document. The two do not get in each
other's way, because they resolve in different scopes. What is walked is parted into these two kinds,
each with distinct ids of its own, and an instance that stands in it has content of one kind only, as
long as templates put their content into no instances of their own. So an instance has a prefixed id
that no other one leads to, whatever its bindings lead to.
-/

namespace FormEngine

namespace Tree

variable {s t u v c : Tree} {ts : List Tree} {x : String}

/-! ## Ids that are there once -/

theorem staticIds_eq_filterMap (t : Tree) :
    t.staticIds = t.subtrees.filterMap fun s => s.kind.staticId? := by
  induction t with
  | node n kind ts ih =>
    rw [staticIds_node, subtrees_node, List.filterMap_cons, List.filterMap_flatMap]
    rw [List.flatMap_congr ih]
    rw [kind_node]
    cases kind.staticId? <;> rfl

theorem flatMap_staticIds (ts : List Tree) :
    ts.flatMap staticIds = (ts.flatMap subtrees).filterMap fun s => s.kind.staticId? := by
  rw [List.filterMap_flatMap]
  exact List.flatMap_congr fun t _ => t.staticIds_eq_filterMap

/-- Of trees without an id twice, no two subtrees have the same one. -/
theorem eq_of_nodup_staticIds (h : (ts.flatMap staticIds).Nodup) (hu : u ∈ ts.flatMap subtrees)
    (hv : v ∈ ts.flatMap subtrees) (hux : u.kind.staticId? = some x)
    (hvx : v.kind.staticId? = some x) : u = v := by
  rw [flatMap_staticIds, List.Nodup, List.pairwise_filterMap] at h
  by_contra hne
  have hsymm : Std.Symm fun u v : Tree => ∀ x, u.kind.staticId? = some x →
      ∀ y, v.kind.staticId? = some y → x ≠ y :=
    ⟨fun _ _ hxy y hy x hx heq => hxy x hx y hy heq.symm⟩
  exact h.forall hu hv hne x hux x hvx rfl

theorem eq_of_staticId? (h : t.staticIds.Nodup) (hu : u ∈ t.subtrees) (hv : v ∈ t.subtrees)
    (hux : u.kind.staticId? = some x) (hvx : v.kind.staticId? = some x) : u = v := by
  rw [← List.flatMap_singleton staticIds] at h
  rw [← List.flatMap_singleton subtrees] at hu hv
  exact eq_of_nodup_staticIds h hu hv hux hvx

/-- Where no two subtrees have the same id, no id is there twice. -/
theorem nodup_staticIds_of_eq (hids : (ts.flatMap ids).Nodup)
    (h : ∀ u ∈ ts.flatMap subtrees, ∀ v ∈ ts.flatMap subtrees, ∀ x,
      u.kind.staticId? = some x → v.kind.staticId? = some x → u.id = v.id) :
    (ts.flatMap staticIds).Nodup := by
  have hmap : (ts.flatMap subtrees).map id = ts.flatMap ids := by
    rw [List.map_flatMap]
    exact List.flatMap_congr fun t _ => t.map_id_subtrees
  rw [← hmap, List.Nodup, List.pairwise_map] at hids
  rw [flatMap_staticIds, List.Nodup, List.pairwise_filterMap]
  refine hids.imp_of_mem fun {u v} hu hv hne x hx y hy heq => hne (h u hu v hv x hx ?_)
  rw [hy, heq]

/-- What is below a node is another node. -/
theorem id_ne_of_below (h : t.ids.Nodup) (hs : s ∈ t.subtrees) (hc : c ∈ s.children)
    (hu : u ∈ c.subtrees) : u.id ≠ s.id := by
  have hnodup := h.sublist (sublist_ids_of_mem_subtrees hs)
  cases s with
  | node n kind ts =>
    rw [ids_node, List.nodup_cons] at hnodup
    intro heq
    refine hnodup.1 (List.mem_flatMap.2 ⟨c, hc, ?_⟩)
    rw [show n = u.id from heq.symm]
    exact ids_subset_of_mem_subtrees hu u.id_mem_ids

theorem mem_subtrees_of_below (hc : c ∈ s.children) (hu : u ∈ c.subtrees) : u ∈ s.subtrees :=
  mem_subtrees.2 (.inr ⟨c, hc, hu⟩)

end Tree

/-! ## Forms with separate ids -/

/-- Each document of a form has distinct ids, and content goes to no instance of the template. -/
structure SeparateIds (controls : Document) (r : ComponentRegistry) : Prop extends
    PlainIds controls r where
  nodup : ∀ d ∈ r.documents controls, d.staticIds.Nodup
  /-- No insertion point is inside of an element that is bound. -/
  free : ∀ b ∈ r.bindings, ∀ template ∈ b.template, ∀ p ∈ template.insertionPoints,
    ∀ a ∈ template.ancestors p, a ≠ template.root → ∀ name ∈ template.name? a,
      r.isComponent name = false

theorem SeparateIds.nodup_staticIds {controls d : Document} {r : ComponentRegistry} {t : Tree}
    (h : SeparateIds controls r) (hd : d ∈ r.documents controls) (ht : d.HasTree t) :
    t.staticIds.Nodup := ht.staticIds ▸ h.nodup d hd

/-- The tree of a forest at its root has no address twice. -/
theorem Document.IsForest.nodup_ids {d : Document} (h : d.IsForest) {t : Tree} (ht : d.HasTree t) :
    t.ids.Nodup := by
  obtain ⟨u, hu, hnodup⟩ := h.exists_hasTree
  obtain ⟨rfl, -⟩ := ht.holds.unique hu.holds (ht.root.trans hu.root.symm)
  exact hnodup

namespace Site

/-- The prefixed id is that of the element, or goes on from it. -/
def Leads (S : Site) (u : Tree) (key : String) : Prop :=
  ∃ id path, u.kind.staticId? = some id ∧ Path.Names key path ∧ S.path u.id ++ [id] <+: path

/-- The site is parted into elements of the template and of the content. The ids `topIds` are those
below the root of the controls document. -/
structure Parted (r : ComponentRegistry) (topIds : List String) (S : Site) : Prop extends
    S.Spelled where
  forest : S.document.IsForest
  /-- Two elements of one kind have different ids. -/
  separate : ∀ u ∈ S.tree.subtrees, ∀ v ∈ S.tree.subtrees, S.isOuter u.id = S.isOuter v.id →
    ∀ x, u.kind.staticId? = some x → v.kind.staticId? = some x → u.id = v.id
  /-- No path goes on from both paths of the site when the content owns its next id. -/
  apart : ∀ u ∈ S.tree.subtrees, S.isOuter u.id = true → ∀ id, u.kind.staticId? = some id →
    ∀ path, S.inner <+: path → ¬S.outer ++ [id] <+: path
  /-- An instance and the elements in it are of one kind. -/
  uniform : ∀ s ∈ S.tree.walked, (∃ name, s.kind.name? = some name ∧ r.isComponent name = true) →
    ∀ u ∈ s.subtrees, u.kind.isElement = true → S.isOuter u.id = S.isOuter s.id
  /-- What resolves at top level was written below the root of the controls document. -/
  rooted : ∀ u ∈ S.tree.subtrees, u.id ≠ S.tree.id → S.scopeOf u.id = 0 →
    ∀ x, u.kind.staticId? = some x → x ∈ topIds

variable {S : Site} {r : ComponentRegistry} {topIds : List String} {controls : Document}
  {t : ScopeTree} {s t₀ filled u v : Tree} {id : String} {b : Binding} {template : Document}
  {shadow : ShadowTree}

namespace Parted

theorem nodup_ids (h : S.Parted r topIds) : S.tree.ids.Nodup := h.forest.nodup_ids h.tree

/-- **A prefixed id leads to one element of the site.** -/
theorem leads_unique (h : S.Parted r topIds) (hu : u ∈ S.tree.subtrees) (hv : v ∈ S.tree.subtrees)
    {key : String} (hukey : S.Leads u key) (hvkey : S.Leads v key) : u.id = v.id := by
  obtain ⟨x, path, hx, hpath, hxpath⟩ := hukey
  obtain ⟨y, path', hy, hpath', hypath⟩ := hvkey
  obtain rfl := hpath.unique hpath'
  have hpaths : ∀ {n : NodeId} {x : String}, S.path n ++ [x] <+: path →
      (S.isOuter n = true ∧ S.outer ++ [x] <+: path) ∨
        (S.isOuter n = false ∧ S.inner ++ [x] <+: path) := by
    intro n x hstart
    unfold Site.path at hstart
    cases hn : S.isOuter n with
    | true =>
      rw [hn, if_pos rfl] at hstart
      exact .inl ⟨rfl, hstart⟩
    | false =>
      rw [hn, if_neg Bool.false_ne_true] at hstart
      exact .inr ⟨rfl, hstart⟩
  have hinner : ∀ {x : String}, S.inner ++ [x] <+: path → S.inner <+: path := fun hstart =>
    (List.prefix_append _ _).trans hstart
  rcases hpaths hxpath with ⟨hu', hstart⟩ | ⟨hu', hstart⟩
  · rcases hpaths hypath with ⟨hv', hstart'⟩ | ⟨hv', hstart'⟩
    · obtain rfl := Path.concat_prefix_inj hstart hstart'
      exact h.separate u hu v hv (hu'.trans hv'.symm) x hx hy
    · exact absurd hstart (h.apart u hu hu' x hx path (hinner hstart'))
  · rcases hpaths hypath with ⟨hv', hstart'⟩ | ⟨hv', hstart'⟩
    · exact absurd hstart' (h.apart v hv hv' y hy path (hinner hstart))
    · obtain rfl := Path.concat_prefix_inj hstart hstart'
      exact h.separate u hu v hv (hu'.trans hv'.symm) x hx hy

/-! ## The controls document -/

theorem top (hform : SeparateIds controls r) {tree : Tree} (htree : controls.HasTree tree) :
    (Site.top controls tree).Parted r (tree.children.flatMap Tree.staticIds) where
  toSpelled := .top hform.toPlainIds htree
  forest := hform.isForest List.mem_cons_self
  separate u hu v hv _ x hux hvx := by
    rw [Tree.eq_of_staticId? (hform.nodup_staticIds List.mem_cons_self htree) hu hv hux hvx]
  apart _ _ hfalse := by contradiction
  uniform _ _ _ _ _ _ := rfl
  rooted u hu hne _ x hx := by
    rcases Tree.mem_subtrees.1 hu with rfl | ⟨c, hc, hu⟩
    · exact absurd rfl hne
    · exact List.mem_flatMap.2 ⟨c, hc, Tree.mem_staticIds.2 ⟨u, hu, hx⟩⟩

end Parted

/-! ## An instance of the site -/

namespace Instance

variable (hi : S.Instance r s id b template shadow t₀ filled)

include hi

theorem isOuter_below (h : S.Parted r topIds) (hu : u ∈ s.subtrees) {x : String}
    (hx : u.kind.staticId? = some x) : S.isOuter u.id = S.isOuter s.id := by
  obtain ⟨name, hname, hbinding⟩ := hi.bound
  have hcomponent : r.isComponent name = true := by
    rw [ComponentRegistry.isComponent, hbinding]
    rfl
  exact h.uniform s hi.walked ⟨name, hname, hcomponent⟩ u hu (NodeKind.isElement_of_staticId? hx)

/-- The links of its shadow tree. -/
theorem links (hform : SeparateIds controls r) (h : S.Parted r topIds) {key : String}
    {outerScope innerScope : ScopeId}
    (hshadow : r.instantiate S.document s.id key outerScope innerScope = .ok shadow) :
    Expansion.Links template template.insertionPoints ⟨shadow.document, shadow.outerNodes⟩ := by
  obtain ⟨p, hp⟩ := h.tree.holds.subtree hi.mem_subtrees
  obtain ⟨name', hname', hbinding⟩ := hi.bound
  rw [← hp.name?] at hname'
  refine r.links_of_instantiate hshadow hname' ?_ h.forest
    (hform.isForest (hi.mem_documents controls))
  rw [ComponentRegistry.template?, hbinding]
  exact hi.original

/-- No element in the instance has the id of the instance. -/
theorem fresh (h : S.Parted r topIds) : id ∉ s.children.flatMap Tree.staticIds := by
  intro hmem
  obtain ⟨c, hc, hmem⟩ := List.mem_flatMap.1 hmem
  obtain ⟨u, hu, hx⟩ := Tree.mem_staticIds.1 hmem
  have hus := Tree.mem_subtrees_of_below hc hu
  refine Tree.id_ne_of_below h.nodup_ids hi.mem_subtrees hc hu ?_
  exact h.separate u (Tree.mem_subtrees_trans hus hi.mem_subtrees) s hi.mem_subtrees
    (hi.isOuter_below h hus hx) id hx hi.staticId

theorem nodup_content (h : S.Parted r topIds) : (s.content.flatMap Tree.staticIds).Nodup := by
  have hids : (s.content.flatMap Tree.ids).Nodup := by
    have hnodup := h.nodup_ids.sublist (Tree.sublist_ids_of_mem_subtrees hi.mem_subtrees)
    cases s with
    | node n kind ts =>
      rw [Tree.ids_node, List.nodup_cons] at hnodup
      exact hnodup.2.sublist (List.filter_sublist.flatMap Tree.ids)
  refine Tree.nodup_staticIds_of_eq hids fun u hu v hv x hux hvx => ?_
  have hbelow : ∀ w ∈ s.content.flatMap Tree.subtrees, w ∈ s.subtrees := by
    intro w hw
    obtain ⟨c, hc, hw⟩ := List.mem_flatMap.1 hw
    exact Tree.mem_subtrees_of_below (List.mem_of_mem_filter hc) hw
  have hkind := (hi.isOuter_below h (hbelow u hu) hux).trans
    (hi.isOuter_below h (hbelow v hv) hvx).symm
  exact h.separate u (Tree.mem_subtrees_trans (hbelow u hu) hi.mem_subtrees) v
    (Tree.mem_subtrees_trans (hbelow v hv) hi.mem_subtrees) hkind x hux hvx

/-- An element of the shadow tree is a copy from the content or a node of the template. -/
theorem copy_or_original (hu : u ∈ filled.subtrees) (helement : u.kind.isElement = true) :
    (shadow.isOuter u.id = true ∧
        u ∈ (Tree.renumberAll template.size s.content).flatMap Tree.subtrees) ∨
      (shadow.isOuter u.id = false ∧ u.id < template.size ∧
        ∃ v ∈ t₀.subtrees, v.id = u.id ∧ v.kind = u.kind) := by
  obtain ⟨p, hp⟩ := hi.fills.document.holds.subtree hu
  have houter : shadow.isOuter u.id = true ↔ template.size ≤ u.id := by
    rw [ShadowTree.isOuter_iff, hi.fills.outer]
    exact and_iff_left (hp.isElement.trans helement)
  rcases hi.fills.filledWith.subtrees u hu with ⟨v, hv, hid, hkind⟩ | ⟨v, hv, huv⟩
  · have hlt := hi.fills.original.holds.lt_of_mem_ids
      (Tree.ids_subset_of_mem_subtrees hv v.id_mem_ids)
    rw [← hid] at hlt
    refine .inr ⟨?_, hlt, v, hv, hid.symm, hkind.symm⟩
    rw [← Bool.not_eq_true, houter]
    exact Nat.not_le.2 hlt
  · obtain ⟨c, hc, j, hj, rfl⟩ := Tree.mem_renumberAll hv
    have hmem := Tree.ids_subset_of_mem_subtrees huv u.id_mem_ids
    rw [Tree.ids_renumber, List.mem_range'_1] at hmem
    exact .inl ⟨houter.2 (Nat.le_trans hj hmem.1), List.mem_flatMap.2 ⟨_, hv, huv⟩⟩

/-- The id of an element that came in as content is one of the content. -/
theorem exists_content (hu : u ∈ filled.subtrees) (houter : shadow.isOuter u.id = true) {x : String}
    (hx : u.kind.staticId? = some x) :
    ∃ c ∈ s.content, ∃ w ∈ c.subtrees, w.kind.staticId? = some x := by
  have hmem : x ∈ (S.inside s id shadow filled).outerIds :=
    Tree.mem_idsWhere.2 ⟨u, hu, houter, hx⟩
  obtain ⟨c, hc, hxc⟩ := List.mem_flatMap.1 (hi.mem_content_of_mem_outerIds hmem)
  obtain ⟨w, hw, hwx⟩ := Tree.mem_staticIds.1 hxc
  exact ⟨c, hc, w, hw, hwx⟩

theorem separate_filled (h : S.Parted r topIds) (hform : SeparateIds controls r)
    (hu : u ∈ filled.subtrees) (hv : v ∈ filled.subtrees)
    (hkind : shadow.isOuter u.id = shadow.isOuter v.id) {x : String}
    (hux : u.kind.staticId? = some x) (hvx : v.kind.staticId? = some x) : u.id = v.id := by
  rcases hi.copy_or_original hu (NodeKind.isElement_of_staticId? hux) with
    ⟨hu', hucopy⟩ | ⟨hu', -, u', hu₀, huid, hukind⟩
  · rcases hi.copy_or_original hv (NodeKind.isElement_of_staticId? hvx) with ⟨hv', hvcopy⟩ | ⟨hv', -⟩
    · have hnodup := hi.nodup_content h
      rw [← Tree.staticIds_renumberAll s.content template.size] at hnodup
      rw [Tree.eq_of_nodup_staticIds hnodup hucopy hvcopy hux hvx]
    · rw [hu', hv'] at hkind
      contradiction
  · rcases hi.copy_or_original hv (NodeKind.isElement_of_staticId? hvx) with
      ⟨hv', -⟩ | ⟨-, -, v', hv₀, hvid, hvkind⟩
    · rw [hu', hv'] at hkind
      contradiction
    · have hnodup := hform.nodup_staticIds (hi.mem_documents controls) hi.fills.original
      rw [← hukind] at hux
      rw [← hvkind] at hvx
      rw [← huid, ← hvid, Tree.eq_of_staticId? hnodup hu₀ hv₀ hux hvx]

variable (hlinks : Expansion.Links template template.insertionPoints
  ⟨shadow.document, shadow.outerNodes⟩)

include hlinks

/-- An instance in the shadow tree has no copies in it unless it is a copy itself. -/
theorem uniform_filled (hform : SeparateIds controls r) (hv : v ∈ filled.walked)
    (hbound : ∃ name, v.kind.name? = some name ∧ r.isComponent name = true) (hu : u ∈ v.subtrees)
    (helement : u.kind.isElement = true) : shadow.isOuter u.id = shadow.isOuter v.id := by
  obtain ⟨name, hname, hcomponent⟩ := hbound
  have hvsub := Tree.walked_subset_subtrees filled hv
  have husub := Tree.mem_subtrees_trans hu hvsub
  obtain ⟨p, hp⟩ := hi.fills.document.holds.subtree hvsub
  obtain ⟨q, hq⟩ := hi.fills.document.holds.subtree husub
  rcases hi.copy_or_original hvsub (NodeKind.isElement_of_name? hname) with
    ⟨hv', -⟩ | ⟨hv', hlt, w, hw, hwid, hwkind⟩
  · have hge := ((hi.fills.outer v.id).1 (ShadowTree.isOuter_iff.1 hv')).1
    rw [hv', ShadowTree.isOuter_iff, hi.fills.outer]
    exact ⟨hi.size_le_of_mem_subtrees hp hge hu, hq.isElement.trans helement⟩
  · rw [hv', ← Bool.not_eq_true, ShadowTree.isOuter_iff, hi.fills.outer]
    rintro ⟨hge, -⟩
    -- a copy in it would stand in the place of a point in it
    have htemplate := hform.isForest (hi.mem_documents controls)
    have hpoints : ∀ p ∈ template.insertionPoints, p < template.size := fun p hp =>
      Document.lt_of_mem_descendantsWithin (List.mem_of_mem_filter hp)
    obtain ⟨point, hpoint, habove⟩ := hlinks.exists_point htemplate hpoints hp hlt hu hge
    have hne : v.id ≠ template.root := by
      rw [← hlinks.root]
      exact hi.fills.document.id_ne_root hv
    have hname' : template.name? v.id = some name := by
      obtain ⟨q', hq'⟩ := hi.fills.original.holds.subtree hw
      rw [← hwid, hq'.name?, hwkind]
      exact hname
    have hfree := hform.free b hi.mem_bindings template hi.original point hpoint v.id habove hne name
      hname'
    rw [hcomponent] at hfree
    contradiction

end Instance

/-- **The shadow tree of an instance is parted again.** -/
theorem Parted.inside (h : S.Parted r topIds) (hform : SeparateIds controls r)
    (hi : S.Instance r s id b template shadow t₀ filled)
    (hlinks : Expansion.Links template template.insertionPoints ⟨shadow.document, shadow.outerNodes⟩)
    (hinner : shadow.innerScope ≠ 0) (houter : shadow.outerScope = S.scopeOf s.id) :
    (S.inside s id shadow filled).Parted r topIds where
  toSpelled := h.toSpelled.inside hform.toPlainIds hi
  forest := hlinks.forest
  separate _ hu _ hv hkind _ hux hvx := hi.separate_filled h hform hu hv hkind hux hvx
  apart u hu houter x hx path hinner hstart := by
    -- an id of the content continues the path of the instance by itself, `id` is not among them
    obtain rfl : id = x := Path.concat_prefix_inj hinner hstart
    obtain ⟨c, hc, w, hw, hwx⟩ := hi.exists_content hu houter hx
    exact hi.fresh h (List.mem_flatMap.2
      ⟨c, List.mem_of_mem_filter hc, Tree.mem_staticIds.2 ⟨w, hw, hwx⟩⟩)
  uniform _ hv hbound _ hu helement := hi.uniform_filled hlinks hform hv hbound hu helement
  rooted u hu _ hscope x hx := by
    change (if shadow.isOuter u.id then shadow.outerScope else shadow.innerScope) = 0 at hscope
    cases hu' : shadow.isOuter u.id with
    | false =>
      rw [hu', if_neg Bool.false_ne_true] at hscope
      exact absurd hscope hinner
    | true =>
      rw [hu', if_pos rfl, houter] at hscope
      -- the original of a copy resolves in the scope of the instance
      obtain ⟨c, hc, w, hw, hwx⟩ := hi.exists_content hu hu' hx
      have hchild := List.mem_of_mem_filter hc
      have hws := Tree.mem_subtrees_of_below hchild hw
      have hwsub := Tree.mem_subtrees_trans hws hi.mem_subtrees
      refine h.rooted w hwsub ?_ ?_ x hwx
      · obtain ⟨p, hp⟩ := h.tree.holds.subtree hi.mem_subtrees
        have hparent := (hp.of_mem_children hchild).parent?_isSome
          (Tree.ids_subset_of_mem_subtrees hw w.id_mem_ids)
        intro heq
        rw [heq, h.tree.holds.parent?] at hparent
        contradiction
      · rw [Site.scopeOf, hi.isOuter_below h hws hwx]
        exact hscope

/-! ## Prefixed ids in the shadow tree -/

namespace Instance

variable (hi : S.Instance r s id b template shadow t₀ filled)

include hi

theorem leads_key (h : S.Parted r topIds) : S.Leads s (Path.key (S.path s.id) id) :=
  ⟨id, _, hi.staticId, Path.names_key (h.path_plain s.id) (hi.isPlain h.toSpelled),
    List.prefix_rfl⟩

/-- A prefixed id in the shadow tree goes on from that of the instance, or is one of the content. -/
theorem leads_cases (hu : u ∈ filled.subtrees) {key : String}
    (h : (S.inside s id shadow filled).Leads u key) :
    ∃ path, Path.Names key path ∧ ((∃ x, S.path s.id ++ [id] ++ [x] <+: path) ∨
      ∃ c ∈ s.content, ∃ w ∈ c.subtrees, ∃ x, w.kind.staticId? = some x ∧
        S.path s.id ++ [x] <+: path) := by
  obtain ⟨x, path, hx, hpath, hstart⟩ := h
  refine ⟨path, hpath, ?_⟩
  change (if shadow.isOuter u.id then S.path s.id else S.path s.id ++ [id]) ++ [x] <+: path at hstart
  cases hu' : shadow.isOuter u.id with
  | false =>
    rw [hu', if_neg Bool.false_ne_true] at hstart
    exact .inl ⟨x, hstart⟩
  | true =>
    rw [hu', if_pos rfl] at hstart
    obtain ⟨c, hc, w, hw, hwx⟩ := hi.exists_content hu hu' hx
    exact .inr ⟨c, hc, w, hw, x, hwx, hstart⟩

/-- So it leads to the instance, or to an element in it. -/
theorem exists_leads (h : S.Parted r topIds) (hu : u ∈ filled.subtrees) {key : String}
    (hkey : (S.inside s id shadow filled).Leads u key) : ∃ w ∈ s.subtrees, S.Leads w key := by
  obtain ⟨path, hpath, ⟨x, hstart⟩ | ⟨c, hc, w, hw, x, hwx, hstart⟩⟩ := hi.leads_cases hu hkey
  · exact ⟨s, s.self_mem_subtrees, id, path, hi.staticId, hpath,
      (List.prefix_append _ _).trans hstart⟩
  · have hws := Tree.mem_subtrees_of_below (List.mem_of_mem_filter hc) hw
    refine ⟨w, hws, x, path, hwx, hpath, ?_⟩
    rwa [Site.path, hi.isOuter_below h hws hwx]

/-- It is not that of the instance itself. -/
theorem not_leads_key (h : S.Parted r topIds) (hu : u ∈ filled.subtrees) :
    ¬(S.inside s id shadow filled).Leads u (Path.key (S.path s.id) id) := by
  intro hkey
  obtain ⟨path, hpath, hcase⟩ := hi.leads_cases hu hkey
  obtain rfl := hpath.unique
    (Path.names_key (h.path_plain s.id) (hi.isPlain h.toSpelled))
  rcases hcase with ⟨x, hstart⟩ | ⟨c, hc, w, hw, x, hwx, hstart⟩
  · exact Path.not_concat_prefix _ _ hstart
  · obtain rfl := Path.concat_prefix_inj hstart List.prefix_rfl
    exact hi.fresh h (List.mem_flatMap.2
      ⟨c, List.mem_of_mem_filter hc, Tree.mem_staticIds.2 ⟨w, hw, hwx⟩⟩)

end Instance

end Site

end FormEngine
