import FormEngine.Proofs.Document.StaticIds
import FormEngine.StaticState.Basic
import Mathlib.Data.List.Find
/-!
# What a form does not see

Before it is written out, a form document takes in what the state has beyond it as one more child of
its root. The splitting of a form looks at the children of the root by their names and at the
subtrees of those it picks, so beside a child that stands aside it finds what it found before: only
a binding is found at any depth. The list of path matchers stands aside and binds nothing. It is
read back as the list that was written.
-/

namespace FormEngine

namespace Document

/-! ## One more child of the root -/

/-- The document `d'` is the form `d` with the tree `t` added under its root, an element. -/
structure GrownAtRoot (d d' : Document) (t : Tree) : Prop where
  forest : d.IsForest
  isElement : d.isElement d.root = true
  grafts : d.Grafts d' d.root t
  leaves : t.TextIsLeaf

namespace GrownAtRoot

variable {d d' : Document} {t : Tree}

theorem root (h : GrownAtRoot d d' t) : d'.root = d.root := h.grafts.root

theorem forest' (h : GrownAtRoot d d' t) : d'.IsForest :=
  h.forest.grafts h.grafts h.isElement h.leaves

/-- Nodes other than the root are the same. -/
theorem node? (h : GrownAtRoot d d' t) {n : NodeId} (hn : n < d.size) (hne : n ≠ d.root) :
    d'.node? n = d.node? n := h.grafts.old_ne hn hne

/-- Kinds and parents are the same, at the root also. -/
theorem kind_parent (h : GrownAtRoot d d' t) {n : NodeId} (hn : n < d.size) :
    d'.name? n = d.name? n ∧ d'.attributes n = d.attributes n ∧ d'.isElement n = d.isElement n ∧
      d'.parent? n = d.parent? n := by
  have hnode := h.grafts.old n hn
  simp only [Document.name?, Document.attributes, Document.isElement, Document.parent?, hnode]
  cases d.node? n with
  | none => exact ⟨rfl, rfl, rfl, rfl⟩
  | some node =>
    by_cases hr : n = d.root <;> simp [hr, Node.addChild]

/-- The root is still an element. -/
theorem isElement_root (h : GrownAtRoot d d' t) : d'.isElement d'.root = true := by
  rw [h.root, (h.kind_parent h.forest.root_lt).2.2.1, h.isElement]

theorem attribute? (h : GrownAtRoot d d' t) {n : NodeId} (hn : n < d.size) (uri localName : String) :
    d'.attribute? n uri localName = d.attribute? n uri localName := by
  rw [Document.attribute?, (h.kind_parent hn).2.1, Document.attribute?]

theorem isNamed (h : GrownAtRoot d d' t) {n : NodeId} (hn : n < d.size) (uri localName : String) :
    d'.isNamed n uri localName = d.isNamed n uri localName := by
  rw [Document.isNamed, (h.kind_parent hn).1, Document.isNamed]

/-- The root has one child more. -/
theorem children_root (h : GrownAtRoot d d' t) :
    d'.children d.root = d.children d.root ++ [t.id] := by
  have hnode := h.grafts.old d.root h.forest.root_lt
  have hlt : d.root < d.nodes.size := h.forest.root_lt
  simp only [Document.children, hnode]
  simp [Document.node?, hlt, Node.addChild]

/-- A node with a parent is not the root and is in range. -/
theorem lt_of_parent (h : GrownAtRoot d d' t) {n p : NodeId} (hp : d.parent? n = some p) :
    n < d.size ∧ n ≠ d.root := by
  refine ⟨Document.lt_size_of_parent? hp, ?_⟩
  rintro rfl
  rw [h.forest.root_parent] at hp
  contradiction

theorem parent_of_child (h : GrownAtRoot d d' t) {n c : NodeId} (hc : c ∈ d.children n) :
    d.parent? c = some n :=
  (h.forest.linked n (Document.lt_size_of_mem_children hc)).back c hc

/-- A child of any node has the same subtree in both documents. -/
theorem copySubtree (h : GrownAtRoot d d' t) {n c : NodeId} (hc : c ∈ d.children n)
    (dest : Document) (q : NodeId) : d'.copySubtree c dest q = d.copySubtree c dest q := by
  have hparent := h.parent_of_child hc
  obtain ⟨p, u, hu, rfl, -, hheight⟩ := h.forest.exists_tree (h.lt_of_parent hparent).1
  have hp : p = some n := hu.parent?.symm.trans hparent
  subst hp
  -- the subtree does not have the root in it, and only the root has got a new child
  have hsame : ∀ m ∈ u.ids, d'.node? m = d.node? m := by
    intro m hm
    refine h.node? (hu.lt_of_mem_ids hm) ?_
    rintro rfl
    have hsome := hu.parent?_isSome hm
    rw [h.forest.root_parent] at hsome
    contradiction
  exact copyWithin_congr hu (hu.frame hsame) hheight
    (Nat.le_trans hheight (Nat.le_of_lt h.grafts.size_lt)) dest q

theorem children_of_ne (h : GrownAtRoot d d' t) {n : NodeId} (hn : n < d.size) (hne : n ≠ d.root) :
    d'.children n = d.children n := by
  rw [Document.children, h.node? hn hne, Document.children]

/-- A child of any node makes the same document of its own. -/
theorem subtreeDocument (h : GrownAtRoot d d' t) {n c : NodeId} (hc : c ∈ d.children n) :
    d'.subtreeDocument c = d.subtreeDocument c := by
  obtain ⟨hlt, hne⟩ := h.lt_of_parent (h.parent_of_child hc)
  rw [Document.subtreeDocument, Document.subtreeDocument, (h.kind_parent hlt).1,
    (h.kind_parent hlt).2.1, h.grafts.namespaces, h.children_of_ne hlt hne]
  exact List.foldl_ext _ _ _ fun dest e he => h.copySubtree he dest dest.root

/-! ### Children by name -/

/-- Child elements are nodes of the form. -/
theorem lt_of_mem_childElements (h : GrownAtRoot d d' t) {n c : NodeId}
    (hc : c ∈ d.childElements n) : c < d.size :=
  (h.lt_of_parent (h.parent_of_child (List.mem_filter.1 hc).1)).1

theorem childElements_root (h : GrownAtRoot d d' t) (ht : t.kind.isElement = true) :
    d'.childElements d'.root = d.childElements d.root ++ [t.id] := by
  have hnew : d'.isElement t.id = true := by rw [h.grafts.holds.isElement, ht]
  rw [Document.childElements, h.root, h.children_root, List.filter_append]
  have hold : (d.children d.root).filter d'.isElement = (d.children d.root).filter d.isElement := by
    refine List.filter_congr fun c hc => ?_
    exact (h.kind_parent (h.lt_of_parent (h.parent_of_child hc)).1).2.2.1
  rw [hold, Document.childElements, List.filter_singleton, hnew]
  rfl

/-- Children of the root under another name than that of the new one are found as before. -/
theorem filter_childElements_root (h : GrownAtRoot d d' t) (ht : t.kind.isElement = true)
    {f f' : NodeId → Bool} (hnew : f' t.id = false) (hold : ∀ c < d.size, f' c = f c) :
    (d'.childElements d'.root).filter f' = (d.childElements d.root).filter f := by
  rw [h.childElements_root ht, List.filter_append, List.filter_singleton, hnew]
  exact (List.append_nil _).trans
    (List.filter_congr fun c hc => hold c (h.lt_of_mem_childElements hc))

theorem firstChildNamed?_root (h : GrownAtRoot d d' t) (ht : t.kind.isElement = true)
    (uri localName : String) :
    d'.firstChildNamed? d'.root uri localName =
      (d.firstChildNamed? d.root uri localName).or
        (if d'.isNamed t.id uri localName then some t.id else none) := by
  rw [firstChildNamed?, h.childElements_root ht, List.find?_append, firstChildNamed?]
  have hold : (d.childElements d.root).find? (fun c => d'.isNamed c uri localName) =
      (d.childElements d.root).find? fun c => d.isNamed c uri localName := by
    exact List.find?_congr fun c hc => h.isNamed (h.lt_of_mem_childElements hc) uri localName
  rw [hold, List.find?_singleton]

theorem childElements_of_ne (h : GrownAtRoot d d' t) {n : NodeId} (hn : n < d.size)
    (hne : n ≠ d.root) : d'.childElements n = d.childElements n := by
  rw [childElements, h.children_of_ne hn hne, childElements]
  refine List.filter_congr fun c hc => ?_
  exact (h.kind_parent (h.lt_of_parent (h.parent_of_child hc)).1).2.2.1

/-- Children of a node other than the root are found as before. -/
theorem firstChildNamed?_of_ne (h : GrownAtRoot d d' t) {n : NodeId} (hn : n < d.size)
    (hne : n ≠ d.root) (uri localName : String) :
    d'.firstChildNamed? n uri localName = d.firstChildNamed? n uri localName := by
  rw [firstChildNamed?, h.childElements_of_ne hn hne, firstChildNamed?]
  exact List.find?_congr fun c hc => h.isNamed (h.lt_of_mem_childElements hc) uri localName

/-! ### Subtrees and ancestors -/

/-- The elements of the form are those it had and those of the new tree. -/
theorem descendants_root (h : GrownAtRoot d d' t) :
    d'.descendants d'.root = d.descendants d.root ++ t.elements := by
  obtain ⟨p, r, hr, hid, hnodup, hheight⟩ := h.forest.exists_tree h.forest.root_lt
  obtain ⟨p', r', hr', hid', -, hheight'⟩ := h.forest'.exists_tree h.forest'.root_lt
  have hgraft : r' = Tree.graft d.root t r := by
    refine (hr'.unique (h.grafts.holds_graft hr) ?_).1
    rw [Tree.id_graft, hid, hid', h.root]
  have hold := hr.descendantsWithin hheight
  have hnew := hr'.descendantsWithin hheight'
  rw [hid] at hold
  rw [hid', hgraft] at hnew
  rw [descendants, hnew, descendants, hold]
  have hkind : r.kind.isElement = true := by
    rw [← hr.isElement, hid, h.isElement]
  -- The root stands at the top of its tree only, so the new tree is grafted there only.
  cases r with
  | node n kind ts =>
    obtain rfl : n = d.root := hid
    rw [Tree.ids_node, List.nodup_cons] at hnodup
    rw [Tree.kind_node] at hkind
    rw [Tree.graft_top t hnodup.1, Tree.elements_node, Tree.elements_node, hkind,
      List.flatMap_append, List.flatMap_singleton]
    rfl

/-- Old nodes have the ancestors that they had. -/
theorem ancestors (h : GrownAtRoot d d' t) {n : NodeId} (hn : n < d.size) :
    d'.ancestors n = d.ancestors n := by
  -- with the same fuel the ways up agree; the larger arena has more of it than it needs
  have hsame : ∀ (fuel : Nat) (m : NodeId), m < d.size →
      d'.ancestorsWithin fuel m = d.ancestorsWithin fuel m := by
    intro fuel
    induction fuel with
    | zero => intro m _; rfl
    | succ fuel ih =>
      intro m hm
      rw [ancestorsWithin, ancestorsWithin, (h.kind_parent hm).2.2.2]
      cases hp : d.parent? m with
      | none => rfl
      | some p => exact congrArg (p :: ·) (ih p (h.forest.parent_lt hp))
  rw [Document.ancestors, hsame _ n hn,
    h.forest.ancestorsWithin hn (Nat.le_of_lt h.grafts.size_lt)]

theorem hasAncestorNamed (h : GrownAtRoot d d' t) {n : NodeId} (hn : n < d.size)
    (uri localName : String) :
    d'.hasAncestorNamed n uri localName = d.hasAncestorNamed n uri localName := by
  rw [Document.hasAncestorNamed, h.ancestors hn, Document.hasAncestorNamed, Bool.eq_iff_iff,
    List.any_eq_true, List.any_eq_true]
  refine exists_congr fun a => and_congr_right fun ha => ?_
  rw [h.isNamed (h.forest.lt_of_mem_ancestorsWithin ha)]

end GrownAtRoot

/-! ## A child that stands aside -/

namespace GrownAtRoot

variable {d d' : Document} {t : Tree}

/-- A child of the root is a node of the form. -/
theorem lt_of_firstChildNamed? (h : GrownAtRoot d d' t) {n c : NodeId} {uri localName : String}
    (hc : d.firstChildNamed? n uri localName = some c) : c ∈ d.children n ∧ c < d.size := by
  have hmem : c ∈ d.children n := (List.mem_filter.1 (List.mem_of_find?_eq_some hc)).1
  exact ⟨hmem, (h.lt_of_parent (h.parent_of_child hmem)).1⟩

theorem lt_of_mem_topLevelModels (h : GrownAtRoot d d' t) {c : NodeId}
    (hc : c ∈ d.topLevelModels) : c ∈ d.children d.root ∧ c < d.size := by
  have hmem : c ∈ d.children d.root := (List.mem_filter.1 (List.mem_filter.1 hc).1).1
  exact ⟨hmem, (h.lt_of_parent (h.parent_of_child hmem)).1⟩

/-- What a form says of itself it says in the attributes of its root. -/
theorem metadata (h : GrownAtRoot d d' t) :
    DocumentMetadata.ofDocument d' = DocumentMetadata.ofDocument d := by
  have hattribute := h.attribute? h.forest.root_lt
  simp only [DocumentMetadata.ofDocument, DocumentMetadata.deploymentOf,
    DocumentMetadata.locationOf?, Document.attr?, h.root, hattribute]

end GrownAtRoot

/-- The tree is an element of a name that the splitting of a form has no use for: it is neither
control markup nor a model, it declares no properties and is no template. -/
structure Aside (t : Tree) (name : QName) : Prop where
  name? : t.kind.name? = some name
  notMarkup : isControlMarkup name = false
  notModel : name.is Namespace.xforms "model" = false
  notProperties : name.is "" "properties" = false
  notTemplate : name.is Namespace.xbl "template" = false

namespace Aside

variable {d d' : Document} {t : Tree} {name : QName}

theorem isElement (h : Aside t name) : t.kind.isElement = true :=
  NodeKind.isElement_of_name? h.name?

/-- The name of the new child of the root. -/
theorem name?_id (h : Aside t name) (hg : GrownAtRoot d d' t) : d'.name? t.id = some name :=
  hg.grafts.holds.name?.trans h.name?

theorem isNamed (h : Aside t name) (hg : GrownAtRoot d d' t) (uri localName : String) :
    d'.isNamed t.id uri localName = name.is uri localName := by
  rw [Document.isNamed, h.name?_id hg]
  rfl

/-! ### Parts that stay the same -/

theorem firstChildNamed? (h : Aside t name) (hg : GrownAtRoot d d' t) {uri localName : String}
    (hne : name.is uri localName = false) :
    d'.firstChildNamed? d'.root uri localName = d.firstChildNamed? d.root uri localName := by
  rw [hg.firstChildNamed?_root h.isElement, h.isNamed hg, hne]
  simp

theorem topLevelModels (h : Aside t name) (hg : GrownAtRoot d d' t) :
    d'.topLevelModels = d.topLevelModels :=
  hg.filter_childElements_root h.isElement ((h.isNamed hg _ _).trans h.notModel)
    fun _ hc => hg.isNamed hc _ _

theorem models (h : Aside t name) (hg : GrownAtRoot d d' t) :
    d'.topLevelModels.map d'.subtreeDocument = d.topLevelModels.map d.subtreeDocument := by
  rw [h.topLevelModels hg]
  exact List.map_congr_left fun m hm => hg.subtreeDocument (hg.lt_of_mem_topLevelModels hm).1

theorem declaredProperties (h : Aside t name) (hg : GrownAtRoot d d' t) :
    d'.declaredProperties = d.declaredProperties := by
  have hglobal : d'.firstChildNamed? d'.root "" "properties" =
      d.firstChildNamed? d.root "" "properties" := h.firstChildNamed? hg h.notProperties
  rw [Document.declaredProperties, Document.declaredProperties, hglobal, h.topLevelModels hg]
  -- the properties of the form itself, then those of its models
  congr 1
  · cases hp : d.firstChildNamed? d.root "" "properties" with
    | none => rfl
    | some p => simp only [(hg.kind_parent (hg.lt_of_firstChildNamed? hp).2).2.1]
  · refine List.flatMap_congr fun m hm => ?_
    rw [(hg.kind_parent (hg.lt_of_mem_topLevelModels hm).2).2.1]

theorem controlsDocument (h : Aside t name) (hg : GrownAtRoot d d' t) :
    d'.controlsDocument = d.controlsDocument := by
  have hcontrols : (d'.childElements d'.root).filter (fun c => (d'.name? c).any isControlMarkup) =
      (d.childElements d.root).filter fun c => (d.name? c).any isControlMarkup := by
    refine hg.filter_childElements_root h.isElement ?_ fun c hc => ?_
    · rw [h.name?_id hg]
      exact h.notMarkup
    · rw [(hg.kind_parent hc).1]
  rw [Document.controlsDocument, hcontrols, hg.grafts.namespaces, Document.controlsDocument]
  refine List.foldl_ext _ _ _ fun dest c hc => ?_
  exact hg.copySubtree (List.mem_filter.1 (List.mem_filter.1 hc).1).1 dest dest.root

/-- A child under another name than that of a page leaves the page what it was. -/
theorem xhtmlPage? (h : Aside t name) (hg : GrownAtRoot d d' t)
    (hpage : name.is Namespace.xhtml "html" = false) : d'.xhtmlPage? = d.xhtmlPage? := by
  rw [Document.xhtmlPage?, h.firstChildNamed? hg hpage, Document.xhtmlPage?]
  cases hc : d.firstChildNamed? d.root Namespace.xhtml "html" with
  | none => rfl
  | some c => exact congrArg some (hg.subtreeDocument (hg.lt_of_firstChildNamed? hc).1)

/-- A child under another name than that of the matchers leaves the matchers what they were. -/
theorem recordedMatchers? (h : Aside t name) (hg : GrownAtRoot d d' t)
    (hmatchers : name.is "" "matchers" = false) : d'.recordedMatchers? = d.recordedMatchers? := by
  rw [Document.recordedMatchers?, h.firstChildNamed? hg hmatchers, Document.recordedMatchers?]
  cases hc : d.firstChildNamed? d.root "" "matchers" with
  | none => rfl
  | some m =>
    obtain ⟨hm, hlt⟩ := hg.lt_of_firstChildNamed? hc
    have hne : m ≠ d.root := (hg.lt_of_parent (hg.parent_of_child hm)).2
    have hlisted : (d'.childElements m).filter (fun c => d'.isNamed c "" "matcher") =
        (d.childElements m).filter fun c => d.isNamed c "" "matcher" := by
      rw [hg.childElements_of_ne hlt hne]
      exact List.filter_congr fun c hc => hg.isNamed (hg.lt_of_mem_childElements hc) _ _
    rw [Option.map_some, Option.map_some, hlisted]
    refine congrArg some (List.filterMap_congr fun c hc => ?_)
    have hattribute := hg.attribute? (hg.lt_of_mem_childElements (List.mem_filter.1 hc).1)
    simp only [PathMatcher.ofElement?, attr?, hattribute]

end Aside

/-! ### Bindings -/

end Document

/-- The tree has no binding in it, apart from what its instances hold. -/
def Tree.BindsNothing (t : Tree) : Prop :=
  ∀ s ∈ t.exposed, (s.kind.name?.any fun name => name.is Namespace.xbl "binding") = false

namespace Document

namespace GrownAtRoot

variable {d d' : Document} {t : Tree}

/-- A new tree without bindings leaves the elements that bind what they were. -/
theorem bindingElements (h : GrownAtRoot d d' t) (hfree : t.BindsNothing) :
    ComponentRegistry.bindingElements d' = ComponentRegistry.bindingElements d := by
  have hnew : t.elements.filter (fun n => d'.isNamed n Namespace.xbl "binding" &&
      !d'.hasAncestorNamed n Namespace.xforms "instance") = [] := by
    refine List.filter_eq_nil_iff.2 fun n hn hbinds => ?_
    rw [Bool.and_eq_true, Bool.not_eq_true'] at hbinds
    obtain ⟨s, hs, rfl⟩ := Tree.exists_subtree_of_mem_ids (Tree.mem_ids_of_mem_elements hn)
    obtain ⟨p, hp⟩ := h.grafts.holds.subtree hs
    have hexposed := h.forest'.mem_exposed h.grafts.holds hs hbinds.2
    have hnamed := hbinds.1
    rw [Document.isNamed, hp.name?, hfree s hexposed] at hnamed
    contradiction
  rw [ComponentRegistry.bindingElements, h.descendants_root, List.filter_append, hnew,
    List.append_nil, ComponentRegistry.bindingElements]
  refine List.filter_congr fun n hn => ?_
  have hlt : n < d.size := lt_of_mem_descendantsWithin hn
  rw [h.isNamed hlt, h.hasAncestorNamed hlt]

end GrownAtRoot

namespace Aside

variable {d d' : Document} {t : Tree} {name : QName}

/-- The template of a binding is what it was. -/
theorem firstChildNamed?_xbl (h : Aside t name) (hg : GrownAtRoot d d' t) {n : NodeId}
    (hn : n < d.size) :
    d'.firstChildNamed? n Namespace.xbl "template" =
      d.firstChildNamed? n Namespace.xbl "template" := by
  -- the root is the one node with a new child, and that child is no template
  by_cases hroot : n = d.root
  · have hfirst : d'.firstChildNamed? d'.root Namespace.xbl "template" =
        d.firstChildNamed? d.root Namespace.xbl "template" :=
      h.firstChildNamed? hg h.notTemplate
    rwa [hg.root, ← hroot] at hfirst
  · exact hg.firstChildNamed?_of_ne hn hroot _ _

theorem bindingOfElement (h : Aside t name) (hg : GrownAtRoot d d' t) {n : NodeId}
    (hn : n < d.size) :
    ComponentRegistry.bindingOfElement d' n = ComponentRegistry.bindingOfElement d n := by
  have hattribute := hg.attribute? hn
  have hselector : ComponentRegistry.resolveSelector d' = ComponentRegistry.resolveSelector d := by
    funext selector
    simp only [ComponentRegistry.resolveSelector, namespace?, hg.grafts.namespaces]
  rw [ComponentRegistry.bindingOfElement, ComponentRegistry.bindingOfElement]
  simp only [staticId?, attr?, hattribute, hselector, h.firstChildNamed?_xbl hg hn]
  cases htemplate : d.firstChildNamed? n Namespace.xbl "template" with
  | none => rfl
  | some template => simp only [hg.subtreeDocument (hg.lt_of_firstChildNamed? htemplate).1]

theorem components (h : Aside t name) (hg : GrownAtRoot d d' t) (hfree : t.BindsNothing) :
    ComponentRegistry.ofDocument d' = ComponentRegistry.ofDocument d := by
  have hfold : ∀ (ns : List NodeId) (r : ComponentRegistry), (∀ n ∈ ns, n < d.size) →
      ns.foldlM (fun r n => do return r.register (← ComponentRegistry.bindingOfElement d' n)) r =
        ns.foldlM (fun r n => do
          return r.register (← ComponentRegistry.bindingOfElement d n)) r := by
    intro ns
    induction ns with
    | nil => intro r _; rfl
    | cons n ns ih =>
      intro r hns
      rw [List.foldlM_cons, List.foldlM_cons, h.bindingOfElement hg (hns n List.mem_cons_self)]
      exact congrArg _ (funext fun r => ih r fun m hm => hns m (List.mem_cons_of_mem n hm))
  rw [ComponentRegistry.ofDocument, hg.bindingElements hfree, ComponentRegistry.ofDocument]
  exact hfold _ _ fun n hn => lt_of_mem_descendantsWithin (List.mem_filter.1 hn).1

end Aside

/-! ## The list of matchers -/

/-- The tree is a list of matchers: a `matchers` element with nothing in a namespace. -/
structure IsMatcherList (t : Tree) : Prop where
  kind : t.kind = .element (.plain "matchers") []
  plain : ∀ s ∈ t.subtrees, ∀ name ∈ s.kind.name?, name.uri = ""

namespace IsMatcherList

variable {t : Tree}

theorem aside (h : IsMatcherList t) : Aside t (.plain "matchers") where
  name? := by
    rw [h.kind]
    rfl
  notMarkup := by decide
  notModel := by decide
  notProperties := by decide
  notTemplate := by decide

/-- Nothing in the list is in a namespace, and bindings are. -/
theorem bindsNothing (h : IsMatcherList t) : t.BindsNothing := by
  intro s hs
  cases hk : s.kind.name? with
  | none => rfl
  | some name =>
    have hplain := h.plain s (Tree.exposed_subset_subtrees t hs) name hk
    have hxbl : ("" == Namespace.xbl) = false := by decide
    rw [Option.any_some, QName.is, hplain, hxbl, Bool.false_and]

end IsMatcherList

end Document

/-! ## Splitting a form with its matchers -/

/-- **The splitting of a form does not see the list of its matchers**, except that it reads them
from there. -/
theorem FormParts.ofDocument_of_grown {d d' : Document} {t : Tree} {config : EngineConfig}
    (h : Document.IsMatcherList t) (hg : Document.GrownAtRoot d d' t)
    (hmatchers : d'.recordedMatchers?.getD config.pathMatchers =
      d.recordedMatchers?.getD config.pathMatchers) :
    FormParts.ofDocument d' config = FormParts.ofDocument d config := by
  have haside := h.aside
  rw [FormParts.ofDocument, FormParts.ofDocument]
  simp only [hg.metadata, haside.declaredProperties hg, haside.components hg h.bindsNothing,
    haside.controlsDocument hg, haside.models hg, haside.xhtmlPage? hg (by decide), hmatchers]

/-! ## Writing the matchers -/

namespace PathMatcher

/-- A matcher is read back from the attributes that it writes. -/
theorem ofElement?_of_attributes {d : Document} {n : NodeId} {m : PathMatcher}
    (h : d.attributes n = m.toAttributes) : PathMatcher.ofElement? d n = some m := by
  obtain ⟨pathInfo, mimeType, versioned⟩ := m
  cases mimeType <;> cases versioned <;>
    simp [ofElement?, Document.attr?, Document.attribute?, h, toAttributes, Attributes.find?,
      QName.plain, QName.is]

/-- The trees of appended matchers, from address `k` on. -/
def leaves (k : Nat) : List PathMatcher → List Tree
  | [] => []
  | m :: ms => .node k (.element (.plain "matcher") m.toAttributes) [] :: leaves (k + 1) ms

theorem grafts_appendTo {d d₁ : Document} {p : NodeId} {kind : NodeKind} {ts : List Tree}
    (h : d.Grafts d₁ p (.node d.size kind ts)) (ms : List PathMatcher) :
    d.Grafts (ms.foldl (fun d' m => m.appendTo d' d.size) d₁) p
      (.node d.size kind (ts ++ leaves d₁.size ms)) := by
  induction ms generalizing ts d₁ with
  | nil => rwa [leaves, List.append_nil]
  | cons m ms ih =>
    have hnext := ih (h.extend (Document.grafts_append h.size_lt
      (.element (.plain "matcher") m.toAttributes)))
    rw [Document.size_append, List.append_assoc] at hnext
    exact hnext

/-- What a matcher is written as is the element of a matcher and nothing else. -/
theorem mem_leaves {k : Nat} {ms : List PathMatcher} {t : Tree} (h : t ∈ leaves k ms) :
    ∃ m : PathMatcher,
      t.kind = .element (.plain "matcher") m.toAttributes ∧ t.children = [] := by
  induction ms generalizing k with
  | nil => simp [leaves] at h
  | cons m ms ih =>
    rw [leaves, List.mem_cons] at h
    rcases h with rfl | h
    · exact ⟨m, rfl, rfl⟩
    · exact ih h

/-- The written matchers are read back in order. -/
theorem filterMap_ofElement?_leaves {d : Document} {p : Option NodeId} {k : Nat}
    {ms : List PathMatcher} (h : ∀ t ∈ leaves k ms, d.Holds p t) :
    (((((leaves k ms).map Tree.id).filter d.isElement).filter fun c =>
        d.isNamed c "" "matcher").filterMap (ofElement? d)) = ms := by
  induction ms generalizing k with
  | nil => rfl
  | cons m ms ih =>
    have hfirst := h _ List.mem_cons_self
    have hnode := hfirst.links
    have helement : d.isElement k = true := by simp [Document.isElement, hnode, NodeKind.isElement]
    have hname : d.isNamed k "" "matcher" = true := by
      simp [Document.isNamed, Document.name?, hnode, NodeKind.name?, QName.is, QName.plain]
    have hmatcher : ofElement? d k = some m :=
      ofElement?_of_attributes (by simp [Document.attributes, hnode, NodeKind.attributes])
    have hrest := ih fun t ht => h t (List.mem_cons_of_mem _ ht)
    rw [leaves, List.map_cons, Tree.id_node]
    simp only [List.filter_cons, helement, hname, if_true]
    rw [List.filterMap_cons_some hmatcher, hrest]

end PathMatcher

namespace StaticState

/-- The tree that the matchers of a form are written as. -/
def matcherTree (k : Nat) (ms : List PathMatcher) : Tree :=
  .node k (.element (.plain "matchers") []) (PathMatcher.leaves (k + 1) ms)

theorem isMatcherList_matcherTree (k : Nat) (ms : List PathMatcher) :
    Document.IsMatcherList (matcherTree k ms) where
  kind := rfl
  plain s hs name hname := by
    rw [matcherTree, Tree.subtrees_node, List.mem_cons, List.mem_flatMap] at hs
    rcases hs with rfl | ⟨t, ht, hs⟩
    · obtain rfl : QName.plain "matchers" = name := Option.some.inj hname
      rfl
    · obtain ⟨m, hkind, hchildren⟩ := PathMatcher.mem_leaves ht
      obtain ⟨n, kind, ts⟩ := t
      rw [Tree.kind_node] at hkind
      rw [Tree.children_node] at hchildren
      subst hkind hchildren
      rw [Tree.subtrees_node, List.flatMap_nil, List.mem_singleton] at hs
      subst hs
      obtain rfl : QName.plain "matcher" = name := Option.some.inj hname
      rfl

theorem textIsLeaf_matcherTree (k : Nat) (ms : List PathMatcher) :
    (matcherTree k ms).TextIsLeaf := by
  rw [matcherTree, Tree.textIsLeaf_node]
  refine ⟨fun h => by contradiction, fun t ht => ?_⟩
  obtain ⟨m, hkind, hchildren⟩ := PathMatcher.mem_leaves ht
  obtain ⟨n, kind, ts⟩ := t
  rw [Tree.children_node] at hchildren
  rw [hchildren, Tree.textIsLeaf_node]
  exact ⟨fun _ => rfl, by simp⟩

/-- A form that records no matchers grows by the list of them. -/
theorem grownAtRoot_foldMatchers {d : Document} (hforest : d.IsForest)
    (hroot : d.isElement d.root = true) {ms : List PathMatcher} (hms : ms.isEmpty = false)
    (hnone : (d.firstChildNamed? d.root "" "matchers").isSome = false) :
    Document.GrownAtRoot d (foldMatchers ms d) (matcherTree d.size ms) where
  forest := hforest
  isElement := hroot
  leaves := textIsLeaf_matcherTree _ _
  grafts := by
    have h := PathMatcher.grafts_appendTo
      (Document.grafts_append hforest.root_lt (.element (.plain "matchers") [])) ms
    rw [Document.size_append] at h
    rw [foldMatchers, hms, hnone]
    exact h

theorem recordedMatchers?_foldMatchers {d : Document} (hforest : d.IsForest)
    (hroot : d.isElement d.root = true) {ms : List PathMatcher} (hms : ms.isEmpty = false)
    (hnone : (d.firstChildNamed? d.root "" "matchers").isSome = false) :
    (foldMatchers ms d).recordedMatchers? = some ms := by
  have hg := grownAtRoot_foldMatchers hforest hroot hms hnone
  have hlist := isMatcherList_matcherTree d.size ms
  have hfirst := hg.firstChildNamed?_root hlist.aside.isElement "" "matchers"
  have hnamed : (foldMatchers ms d).isNamed (matcherTree d.size ms).id "" "matchers" = true := by
    rw [hlist.aside.isNamed hg]
    decide
  rw [Option.isSome_eq_false_iff, Option.isNone_iff_eq_none] at hnone
  rw [hnone, hnamed] at hfirst
  have hchildren := hg.grafts.holds.children
  rw [Document.recordedMatchers?, hfirst]
  simp only [if_true, Option.none_or, Option.map_some, Document.childElements, hchildren]
  exact congrArg some (PathMatcher.filterMap_ofElement?_leaves hg.grafts.holds.child)

/-- **A form is split the same with its matchers written into it.** -/
theorem parts_foldMatchers {d : Document} (hforest : d.IsForest) (hroot : d.isElement d.root = true)
    (config : EngineConfig) :
    FormParts.ofDocument
        (foldMatchers (d.recordedMatchers?.getD config.pathMatchers) d) config =
      FormParts.ofDocument d config := by
  -- nothing is written when there is nothing to write or a list is there already
  by_cases hkeep : ((d.recordedMatchers?.getD config.pathMatchers).isEmpty ||
      (d.firstChildNamed? d.root "" "matchers").isSome) = true
  · rw [foldMatchers, if_pos hkeep]
  · rw [Bool.not_eq_true, Bool.or_eq_false_iff] at hkeep
    obtain ⟨hms, hnone⟩ := hkeep
    refine FormParts.ofDocument_of_grown (isMatcherList_matcherTree _ _)
      (grownAtRoot_foldMatchers hforest hroot hms hnone) ?_
    rw [recordedMatchers?_foldMatchers hforest hroot hms hnone]
    rfl

end StaticState

end FormEngine
