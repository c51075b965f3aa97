import FormEngine.Proofs.Component.Expansion
import FormEngine.Proofs.Document.StaticIds
import FormEngine.Scope.Resolver
/-!
# The tree of a shadow tree

Under a template with at most one insertion point the shadow tree of an instance is the tree of the
template, in which copies of the content stand in the place of the point. What a tree so filled
consists of is all that is said about it here: its subtrees, the part outside of instances of data,
and how often it has an id.
-/

namespace FormEngine

/-- The element handles an event. -/
def NodeKind.isHandler (kind : NodeKind) : Bool :=
  (Attributes.find? Namespace.events "event" kind.attributes).isSome

namespace Tree

/-- The children of an instance that go into its shadow tree. -/
def content (t : Tree) : List Tree := t.children.filter fun c => !c.kind.isHandler

/-- The event handlers on an instance. -/
def handlers (t : Tree) : List Tree := t.children.filter fun c => c.kind.isHandler

theorem content_subset (t : Tree) :
    t.content.flatMap staticIds ⊆ t.children.flatMap staticIds :=
  (List.filter_sublist.flatMap staticIds).subset

theorem handlers_subset (t : Tree) :
    t.handlers.flatMap staticIds ⊆ t.children.flatMap staticIds :=
  (List.filter_sublist.flatMap staticIds).subset

/-- Content and handlers share no id when no id stands below the instance twice. -/
theorem disjoint_handlers_content {t : Tree} (h : (t.children.flatMap staticIds).Nodup) :
    (t.handlers.flatMap staticIds).Disjoint (t.content.flatMap staticIds) := by
  have hperm := (List.filter_append_perm (fun c : Tree => c.kind.isHandler) t.children).flatMap_right
    staticIds
  rw [List.flatMap_append] at hperm
  have hnodup := hperm.nodup_iff.2 h
  intro x hx hx'
  exact (List.nodup_append.1 hnodup).2.2 x hx x hx' rfl

/-- The tree `filled` is `t` with the trees `us` put in somewhere, and maybe a subtree taken out. -/
structure FilledWith (t : Tree) (us : List Tree) (filled : Tree) : Prop where
  subtrees : ∀ s ∈ filled.subtrees,
    (∃ r ∈ t.subtrees, s.id = r.id ∧ s.kind = r.kind) ∨ ∃ u ∈ us, s ∈ u.subtrees
  walked : ∀ s ∈ filled.walked, (∃ r ∈ t.walked, s.kind = r.kind) ∨ ∃ u ∈ us, s ∈ u.exposed
  count : ∀ x, filled.staticIds.count x ≤ t.staticIds.count x + (us.flatMap staticIds).count x

theorem FilledWith.refl (t : Tree) (us : List Tree) : t.FilledWith us t where
  subtrees s hs := .inl ⟨s, hs, rfl, rfl⟩
  walked s hs := .inl ⟨s, hs, rfl⟩
  count _ := Nat.le_add_right _ _

/-- An exchange in a tree without repeated addresses. -/
theorem filledWith_exchange {t : Tree} (hnodup : t.ids.Nodup) (p q : NodeId) (i : Nat)
    (us : List Tree) : t.FilledWith us (t.exchange p q i us) where
  subtrees s hs := by
    rcases mem_subtrees_exchange hs with ⟨r, hr, rfl⟩ | hcopy
    · exact .inl ⟨r, hr, id_exchange r, kind_exchange r⟩
    · exact .inr hcopy
  walked s hs := by
    rcases mem_walked_exchange hs with ⟨r, hr, rfl⟩ | hcopy
    · exact .inl ⟨r, hr, kind_exchange r⟩
    · exact .inr hcopy
  count x := by
    -- the parent of the point is there once, so the copies come in once
    have hcount : t.ids.count q ≤ 1 := List.nodup_iff_count_le_one.1 hnodup q
    calc (t.exchange p q i us).staticIds.count x
        ≤ t.staticIds.count x + t.ids.count q * (us.flatMap staticIds).count x :=
          count_staticIds_exchange_le t x
      _ ≤ t.staticIds.count x + 1 * (us.flatMap staticIds).count x :=
          Nat.add_le_add_left (Nat.mul_le_mul_right _ hcount) _
      _ = t.staticIds.count x + (us.flatMap staticIds).count x := by rw [Nat.one_mul]

/-- An id of the filled tree is one of the tree or of what was put in. -/
theorem FilledWith.mem_or_mem {t filled : Tree} {us : List Tree} (h : t.FilledWith us filled)
    {x : String} (hx : x ∈ filled.staticIds) :
    x ∈ t.staticIds ∨ x ∈ us.flatMap staticIds := by
  have hpos : 0 < filled.staticIds.count x := List.count_pos_iff.2 hx
  have hle := h.count x
  by_cases ht : x ∈ t.staticIds
  · exact .inl ht
  · rw [List.count_eq_zero.2 ht, Nat.zero_add] at hle
    exact .inr (List.count_pos_iff.1 (Nat.lt_of_lt_of_le hpos hle))

/-- A filled tree has no id twice when the tree and what was put in have none. -/
theorem FilledWith.nodup {t filled : Tree} {us : List Tree} (h : t.FilledWith us filled)
    (ht : t.staticIds.Nodup) (hus : (us.flatMap staticIds).Nodup)
    (hdisjoint : ∀ x ∈ t.staticIds, x ∉ us.flatMap staticIds) : filled.staticIds.Nodup := by
  refine List.nodup_iff_count_le_one.2 fun x => ?_
  have hle := h.count x
  have h₁ := List.nodup_iff_count_le_one.1 ht x
  have h₂ := List.nodup_iff_count_le_one.1 hus x
  by_cases hx : x ∈ t.staticIds
  · rw [List.count_eq_zero.2 (hdisjoint x hx)] at hle
    omega
  · rw [List.count_eq_zero.2 hx] at hle
    omega

end Tree

namespace Document

variable {d : Document} {parent : Option NodeId} {t : Tree}

theorem Holds.isHandler (h : d.Holds parent t) :
    (d.attribute? t.id Namespace.events "event").isSome = t.kind.isHandler := by
  rw [attribute?, attributes_eq, h.kind?]
  rfl

theorem Holds.componentContent (h : d.Holds parent t) :
    d.componentContent t.id = t.content.map Tree.id := by
  rw [Document.componentContent, h.children, Tree.content, List.filter_map]
  refine congrArg (List.map Tree.id) (List.filter_congr fun c hc => ?_)
  cases t
  have hc' := (h.child c hc).isHandler
  show (d.attribute? c.id Namespace.events "event").isNone = !c.kind.isHandler
  rw [← hc']
  cases d.attribute? c.id Namespace.events "event" <;> rfl

theorem Holds.childElements (h : d.Holds parent t) :
    d.childElements t.id = (t.children.filter fun c => c.kind.isElement).map Tree.id := by
  rw [Document.childElements, h.children, List.filter_map]
  exact congrArg (List.map Tree.id)
    (List.filter_congr fun c hc => (h.of_mem_children hc).isElement)

/-- A handler is an element, since text handles no event. -/
theorem Holds.handlerIds (h : d.Holds parent t) (hleaf : t.TextIsLeaf) (hheight : t.height ≤ d.size) :
    d.handlerIds t.id = t.handlers.flatMap Tree.staticIds := by
  have hfilter : (d.childElements t.id).filter (fun c =>
      (d.attribute? c Namespace.events "event").isSome) = t.handlers.map Tree.id := by
    rw [h.childElements, List.filter_map, List.filter_filter, Tree.handlers]
    refine congrArg (List.map Tree.id) (List.filter_congr fun c hc => ?_)
    show ((d.attribute? c.id Namespace.events "event").isSome && c.kind.isElement) =
      c.kind.isHandler
    rw [(h.of_mem_children hc).isHandler]
    cases c.kind <;> simp [NodeKind.isHandler, NodeKind.isElement, NodeKind.attributes,
      Attributes.find?]
  rw [Document.handlerIds, hfilter, List.flatMap_map]
  refine List.flatMap_congr fun c hc => ?_
  have hmem := List.mem_of_mem_filter hc
  have hc' := h.of_mem_children hmem
  have hfuel : c.height ≤ d.size := Nat.le_trans (Tree.height_le_of_mem_children hmem) hheight
  have hcleaf : c.TextIsLeaf := fun s hs =>
    hleaf s (Tree.mem_subtrees.2 (.inr ⟨c, hmem, hs⟩))
  rw [descendants, hc'.descendantsWithin hfuel, hc'.filterMap_elements hcleaf]

end Document

/-! ## The filled template -/

/-- The tree of a document: the one below its root. -/
structure Document.HasTree (d : Document) (t : Tree) : Prop where
  holds : d.Holds none t
  root : t.id = d.root
  height : t.height ≤ d.size
  leaf : t.TextIsLeaf

theorem Document.IsForest.exists_hasTree {d : Document} (h : d.IsForest) :
    ∃ t, d.HasTree t ∧ t.ids.Nodup := by
  obtain ⟨p, t, ht, hid, hnodup, hheight⟩ := h.exists_tree h.root_lt
  have hparent : p = none := by
    rw [← ht.parent?, hid]
    exact h.root_parent
  subst hparent
  -- that texts are leaves is known of another tree at the root, but there is only one
  obtain ⟨q, u, hu, huid, -, huleaf⟩ := h.grounded d.root h.root_lt
  obtain ⟨rfl, -⟩ := ht.unique hu (hid.trans huid.symm)
  exact ⟨t, ⟨ht, hid, hheight, huleaf⟩, hnodup⟩

namespace Document.HasTree

variable {d : Document} {t : Tree}

theorem childElements_root (h : d.HasTree t) :
    d.childElements d.root = (t.children.filter fun c => c.kind.isElement).map Tree.id := by
  rw [← h.root]
  exact h.holds.childElements

/-- The walk down from the root goes over the elements of the tree. -/
theorem descendants_root (h : d.HasTree t) : d.descendants d.root = t.elements := by
  rw [Document.descendants, ← h.root, h.holds.descendantsWithin h.height]

theorem mem_descendants_root (h : d.HasTree t) {n : NodeId} :
    n ∈ d.descendants d.root ↔ n ∈ t.ids ∧ d.isElement n = true := by
  rw [h.descendants_root, h.holds.mem_elements h.leaf]

end Document.HasTree

/-- The document with tree `filled` and outer nodes is the template with tree `t`, filled with
copies of the content, which have the addresses from the size of the template on. -/
structure Expansion.Fills (e : Expansion) (template : Document) (content : List Tree)
    (t filled : Tree) : Prop where
  original : template.HasTree t
  document : e.document.HasTree filled
  grounded : e.document.Grounded
  filledWith : t.FilledWith (Tree.renumberAll template.size content) filled
  below : ∀ n, template.size ≤ n → ∀ c ∈ e.document.children n, template.size ≤ c
  outer : ∀ n, n ∈ e.outerNodes ↔ template.size ≤ n ∧ e.document.isElement n = true

/-- One point is filled, or none is. -/
theorem Expansion.exists_hasTree_fill {source template : Document} {content : List Tree}
    {t : Tree} {p : NodeId} (ht : template.HasTree t) (hnodup : t.ids.Nodup)
    (hgrounded : template.Grounded)
    (hcontent : ∀ c ∈ content, (∃ q, source.Holds q c) ∧ c.height ≤ source.size)
    (hleaf : ∀ c ∈ content, c.TextIsLeaf) :
    ∃ filled, (fill source (content.map Tree.id) { document := template } p).document.HasTree filled ∧
      t.FilledWith (Tree.renumberAll template.size content) filled := by
  rcases fill_spec (e := { document := template }) (p := p) hcontent with
    heq | ⟨q, i, hp, hlisted, hins, -⟩
  · rw [heq]
    exact ⟨t, ht, Tree.FilledWith.refl t _⟩
  · generalize (fill source (content.map Tree.id) { document := template } p).document = d at hins
    -- the point is taken out below an element, and a text is given no child
    have hq : template.isElement q = true := hgrounded.isElement_of_child hlisted
    have hheld := Document.holds_exchange hp hins ht.holds
    rw [ite_self] at hheld
    have hsize : d.size = template.size +
        ((Tree.renumberAll template.size content).flatMap Tree.ids).length := by
      rw [hins.size, Document.size_detach]
    refine ⟨_, ⟨hheld, ?_, ?_, ?_⟩, Tree.filledWith_exchange hnodup p q i _⟩
    · rw [Tree.id_exchange, ht.root, hins.root, Document.root_detach]
    · rw [hsize]
      refine Tree.height_exchange_le ht.height fun u hu => ?_
      exact Nat.le_trans u.height_le_length_ids (Tree.sublist_ids_of_mem hu).length_le
    · refine ht.leaf.exchange (fun u hu => ?_) fun u hu hidu => ?_
      · obtain ⟨c, hc, j, -, rfl⟩ := Tree.mem_renumberAll hu
        exact (hleaf c hc).renumber j
      · obtain ⟨r, hr⟩ := ht.holds.subtree hu
        rw [← hr.isElement, hidu]
        exact hq

/-- **The shadow tree of an instance of a template with one insertion point at most** is the tree of
the template, filled with the content numbered anew. -/
theorem ComponentRegistry.fills_of_instantiate {r : ComponentRegistry} {source : Document}
    {prefixedId : String} {outerScope innerScope : ScopeId} {s : ShadowTree}
    {parent : Option NodeId} {bound : Tree}
    (h : r.instantiate source bound.id prefixedId outerScope innerScope = .ok s)
    (hsource : source.Grounded) (hbound : source.Holds parent bound)
    (hheight : bound.height ≤ source.size) (hleaf : bound.TextIsLeaf)
    (htemplates : ∀ name template, r.template? name = some template →
      template.IsForest ∧ template.insertionPoints.length ≤ 1) :
    ∃ name template t filled, bound.kind.name? = some name ∧ r.template? name = some template ∧
      s.innerScope = innerScope ∧ s.outerScope = outerScope ∧
      Expansion.Fills ⟨s.document, s.outerNodes⟩ template bound.content t filled := by
  obtain ⟨name, template, hname, htemplate, hinner, houter, hexpansion⟩ := instantiate_spec h
  obtain ⟨hforest, hpoints⟩ := htemplates name template htemplate
  have hexpands := expands_of_instantiate h hname htemplate hsource hforest.grounded
  rw [hbound.name?] at hname
  obtain ⟨t, ht, hnodup⟩ := hforest.exists_hasTree
  have hcontent : ∀ c ∈ bound.content, (∃ q, source.Holds q c) ∧ c.height ≤ source.size := by
    intro c hc
    have hmem := List.mem_of_mem_filter hc
    exact ⟨⟨some bound.id, hbound.of_mem_children hmem⟩,
      Nat.le_trans (Tree.height_le_of_mem_children hmem) hheight⟩
  have hcontentLeaf : ∀ c ∈ bound.content, c.TextIsLeaf := fun c hc s hs =>
    hleaf s (Tree.mem_subtrees.2 (.inr ⟨c, List.mem_of_mem_filter hc, hs⟩))
  have hfilled : ∃ filled, s.document.HasTree filled ∧
      t.FilledWith (Tree.renumberAll template.size bound.content) filled := by
    rw [hbound.componentContent] at hexpansion
    have hdocument := congrArg Expansion.document hexpansion
    -- with a second point the copies would be there twice, and so would their ids
    match hps : template.insertionPoints, hpoints with
    | [], _ =>
      rw [hps] at hdocument
      rw [show s.document = template from hdocument]
      exact ⟨t, ht, Tree.FilledWith.refl t _⟩
    | [p], _ =>
      rw [hps] at hdocument
      rw [show s.document = _ from hdocument]
      exact Expansion.exists_hasTree_fill ht hnodup hforest.grounded hcontent hcontentLeaf
  obtain ⟨filled, hhas, hwith⟩ := hfilled
  exact ⟨name, template, t, filled, hname, htemplate, hinner, houter, ht, hhas,
    hexpands.grounded, hwith, hexpands.below, hexpands.outer⟩

end FormEngine
