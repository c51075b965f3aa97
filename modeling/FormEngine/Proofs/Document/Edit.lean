import FormEngine.Proofs.Document.Arena
import FormEngine.Proofs.Document.Insert
import FormEngine.Proofs.Json.Assign
/-!
# Editing keeps a document sound

A document is sound when its arena is a forest and its namespace table has no prefix twice. Every
operation on documents keeps this. An operation that grows a document grows it by a tree under an
element. One that changes links unlinks a node, which then has no parent, or puts the children of
one node in another order. The rest changes neither links nor which nodes are elements.
-/

namespace FormEngine.Document

/-- A forest by its links is a forest. -/
theorem LinksForest.isForest {d : Document} (h : d.LinksForest) : d.IsForest :=
  check_eq_ok_iff.1 (check_eq_ok_iff_links.2 ⟨h.root_lt, h.root_parent, h.linked, h.reached?_eq⟩)

/-- What can be encoded: a forest, with a namespace table that has no prefix twice. -/
structure Sound (d : Document) : Prop where
  forest : d.IsForest
  prefixes : (d.namespaces.map Prod.fst).Nodup

variable {d d' source dest : Document} {n p : NodeId}

/-! ## Links that stay -/

/-- The two arenas have the same links up to the order of children, and elements at the same
addresses. -/
structure SameLinks (d d' : Document) : Prop where
  root : d'.root = d.root
  size : d'.size = d.size
  parent? : ∀ n, d'.parent? n = d.parent? n
  children : ∀ n, (d'.children n).Perm (d.children n)
  isElement : ∀ n, d'.isElement n = d.isElement n

/-- The way up from a node depends on the parents alone. -/
theorem Rises.congr (hsize : d'.size = d.size) (hparent : ∀ n, d'.parent? n = d.parent? n)
    (h : d.Rises n) : d'.Rises n := by
  induction h with
  | top hn hnone => exact .top (hsize ▸ hn) ((hparent _).trans hnone)
  | up hsome _ ih => exact .up ((hparent _).trans hsome) ih

theorem IsForest.of_sameLinks (h : d.IsForest) (hsame : d.SameLinks d') : d'.IsForest := by
  have hlinks := h.linksForest
  refine LinksForest.isForest
    { root_lt := ?_, root_parent := ?_, parent_lt := fun m p hp => ?_, child_lt := fun p c hc => ?_
      mem_children_iff := fun p c => ?_, nodup := fun p => ?_, text_leaf := fun m hm => ?_
      rises := fun m hm => ?_ }
  · rw [hsame.root, hsame.size]
    exact hlinks.root_lt
  · rw [hsame.root, hsame.parent?]
    exact hlinks.root_parent
  · rw [hsame.size]
    exact hlinks.parent_lt m p ((hsame.parent? m).symm.trans hp)
  · rw [hsame.size]
    exact hlinks.child_lt p c ((hsame.children p).mem_iff.1 hc)
  · rw [(hsame.children p).mem_iff, hsame.parent?]
    exact hlinks.mem_children_iff p c
  · exact (hsame.children p).nodup_iff.2 (hlinks.nodup p)
  · have hnil := hlinks.text_leaf m ((hsame.isElement m).symm.trans hm)
    exact List.perm_nil.1 (hnil ▸ hsame.children m)
  · exact (hlinks.rises m (hsame.size ▸ hm)).congr hsame.size hsame.parent?

/-- A node that is written anew, with its parent, its children in some order and its kind as an
element or a text. -/
theorem sameLinks_modify (d : Document) (n : NodeId) {f : Node → Node}
    (hparent : ∀ node, (f node).parent = node.parent)
    (hchildren : ∀ node, (f node).children.Perm node.children)
    (hkind : ∀ node, (f node).kind.isElement = node.kind.isElement) :
    d.SameLinks { d with nodes := d.nodes.modify n f } := by
  have hnode : ∀ m, ({ d with nodes := d.nodes.modify n f } : Document).node? m =
      if n = m then (d.node? m).map f else d.node? m := fun m => Array.getElem?_modify
  refine ⟨rfl, by simp [size], fun m => ?_, fun m => ?_, fun m => ?_⟩
  · rw [Document.parent?, Document.parent?, hnode]
    cases d.node? m with
    | none => rw [Option.map_none, ite_self]
    | some node => split <;> simp [hparent]
  · rw [Document.children, Document.children, hnode]
    cases d.node? m with
    | none => rw [Option.map_none, ite_self]
    | some node =>
      split
      · exact hchildren node
      · exact .refl _
  · rw [Document.isElement, Document.isElement, hnode]
    cases d.node? m with
    | none => rw [Option.map_none, ite_self]
    | some node => split <;> simp [hkind]

/-! ## Prefixes and attributes -/

theorem node?_setAttribute (d : Document) (n m : NodeId) (name : QName) (value : String) :
    (d.setAttribute n name value).node? m = if n = m then (d.node? m).map fun node =>
      match node.kind with
      | .element e attributes => { node with kind := .element e (Attributes.set name value attributes) }
      | .text _ => node
    else d.node? m :=
  Array.getElem?_modify

theorem sameLinks_setAttribute (d : Document) (n : NodeId) (name : QName) (value : String) :
    d.SameLinks (d.setAttribute n name value) := by
  refine sameLinks_modify d n (fun node => ?_) (fun node => ?_) fun node => ?_
  · cases node.kind <;> rfl
  · cases node.kind <;> exact .refl _
  · cases hkind : node.kind <;> simp [hkind, NodeKind.isElement]

theorem Sound.setAttribute (h : d.Sound) (n : NodeId) (name : QName) (value : String) :
    (d.setAttribute n name value).Sound where
  forest := h.forest.of_sameLinks (sameLinks_setAttribute d n name value)
  prefixes := h.prefixes

theorem sameLinks_declareNamespace (d : Document) (nsPrefix uri : String) :
    d.SameLinks (d.declareNamespace nsPrefix uri) := by
  unfold declareNamespace
  split <;> exact ⟨rfl, rfl, fun _ => rfl, fun _ => .refl _, fun _ => rfl⟩

/-- A prefix that joins the table was not there before. -/
theorem Sound.declareNamespace (h : d.Sound) (nsPrefix uri : String) :
    (d.declareNamespace nsPrefix uri).Sound := by
  refine ⟨h.forest.of_sameLinks (sameLinks_declareNamespace d nsPrefix uri), ?_⟩
  unfold Document.declareNamespace
  split
  · exact h.prefixes
  · rename_i hnone
    rw [Document.namespace?, Option.not_isSome_iff_eq_none, lookup_eq_none_iff_notMem] at hnone
    rw [List.map_append, List.map_singleton, ← List.concat_eq_append]
    exact h.prefixes.concat hnone

/-! ## Unlinking -/

theorem parent?_detach (d : Document) (n m : NodeId) :
    (d.detach n).parent? m = if m = n then none else d.parent? m := by
  cases hparent : d.parent? n with
  | none =>
    have hsame : d.detach n = d := by rw [detach, hparent]
    rw [hsame]
    by_cases hm : m = n
    · rw [if_pos hm, hm, hparent]
    · rw [if_neg hm]
  | some q =>
    rw [parent?, parent?, node?_detach hparent]
    cases d.node? m with
    | none => simp
    | some node => simp

theorem children_detach {q : NodeId} (hparent : d.parent? n = some q) (m : NodeId) :
    (d.detach n).children m =
      if m = q then (d.children m).filter (· != n) else d.children m := by
  rw [children, children, node?_detach hparent]
  cases d.node? m with
  | none => simp
  | some node => rfl

theorem isElement_detach (d : Document) (n m : NodeId) :
    (d.detach n).isElement m = d.isElement m := by
  cases hparent : d.parent? n with
  | none => rw [detach, hparent]
  | some q =>
    rw [isElement, isElement, node?_detach hparent]
    cases d.node? m with
    | none => rfl
    | some node => rfl

/-- After a node is unlinked the way up ends at it, or goes on as before. -/
theorem Rises.detach (h : d.Rises p) (hn : n < d.size) : (d.detach n).Rises p := by
  have htop : (d.detach n).Rises n :=
    .top (by rwa [size_detach]) (by rw [parent?_detach, if_pos rfl])
  induction h with
  | @top m hm hnone =>
    refine .top (by rwa [size_detach]) ?_
    rw [parent?_detach, hnone, ite_self]
  | @up m q hsome _ ih =>
    by_cases hmn : m = n
    · exact hmn ▸ htop
    · exact .up (by rwa [parent?_detach, if_neg hmn]) ih

/-- **A forest stays one when a node is unlinked**, with one more tree. -/
theorem IsForest.detach (h : d.IsForest) (hn : n < d.size) : (d.detach n).IsForest := by
  cases hparent : d.parent? n with
  | none => rwa [Document.detach, hparent]
  | some q =>
    have hlinks := h.linksForest
    have hmem : ∀ m c, c ∈ (d.detach n).children m ↔ c ∈ d.children m ∧ c ≠ n := by
      intro m c
      rw [children_detach hparent]
      split
      · rw [List.mem_filter, bne_iff_ne]
      · rename_i hm
        refine ⟨fun hc => ⟨hc, ?_⟩, And.left⟩
        rintro rfl
        rw [hlinks.mem_children_iff, hparent, Option.some.injEq] at hc
        exact hm hc.symm
    refine LinksForest.isForest
      { root_lt := ?_, root_parent := ?_, parent_lt := fun m p hp => ?_
        child_lt := fun p c hc => ?_, mem_children_iff := fun p c => ?_, nodup := fun p => ?_
        text_leaf := fun m hm => ?_, rises := fun m hm => ?_ }
    · rw [root_detach, size_detach]
      exact hlinks.root_lt
    · rw [root_detach, parent?_detach, hlinks.root_parent, ite_self]
    · rw [parent?_detach] at hp
      split at hp
      · contradiction
      · rw [size_detach]
        exact hlinks.parent_lt m p hp
    · rw [size_detach]
      exact hlinks.child_lt p c ((hmem p c).1 hc).1
    · rw [hmem, parent?_detach, hlinks.mem_children_iff]
      by_cases hc : c = n <;> simp [hc]
    · rw [children_detach hparent]
      split
      · exact (hlinks.nodup p).filter _
      · exact hlinks.nodup p
    · rw [isElement_detach] at hm
      rw [children_detach hparent, hlinks.text_leaf m hm]
      exact ite_self _
    · rw [size_detach] at hm
      exact (hlinks.rises m hm).detach hn

theorem Sound.detach (h : d.Sound) (hn : n < d.size) : (d.detach n).Sound where
  forest := h.forest.detach hn
  prefixes := by
    unfold Document.detach
    cases d.parent? n <;> exact h.prefixes

/-! ## Growth -/

/-- What grows by a tree under an element stays sound. -/
theorem Sound.grafts {t : Tree} (h : d.Sound) (hg : d.Grafts d' p t)
    (hp : d.isElement p = true) (hleaf : t.TextIsLeaf) : d'.Sound where
  forest := h.forest.grafts hg hp hleaf
  prefixes := hg.namespaces ▸ h.prefixes

theorem Sound.append (h : d.Sound) (hp : d.isElement p = true) (kind : NodeKind) :
    (d.append p kind).Sound := by
  refine h.grafts (grafts_append (lt_size_of_isElement hp) kind) hp ?_
  rw [Tree.textIsLeaf_node]
  exact ⟨fun _ => rfl, by simp⟩

/-- A node of a forest is copied as a tree. -/
theorem IsForest.exists_grafts_copySubtree (h : source.IsForest) (hn : n < source.size)
    (hp : p < dest.size) :
    ∃ t : Tree, dest.Grafts (source.copySubtree n dest p) p t ∧ t.TextIsLeaf := by
  obtain ⟨q, t, ht, rfl, hheight, hleaf⟩ := h.grounded n hn
  exact ⟨_, grafts_copyWithin ht hheight dest p hp, hleaf.renumber dest.size⟩

theorem Sound.copySubtree (hd : dest.Sound) (hs : source.IsForest) (hn : n < source.size)
    (hp : dest.isElement p = true) : (source.copySubtree n dest p).Sound := by
  obtain ⟨t, hg, hleaf⟩ := hs.exists_grafts_copySubtree hn (lt_size_of_isElement hp)
  exact hd.grafts hg hp hleaf

/-- Elements stay elements when a document grows. -/
theorem Grafts.isElement {t : Tree} (hg : d.Grafts d' p t) (hn : n < d.size) :
    d'.isElement n = d.isElement n := by
  rw [Document.isElement, hg.old n hn, Document.isElement]
  cases d.node? n with
  | none => rfl
  | some node => by_cases hnp : n = p <;> simp [hnp, Node.addChild]

/-! ## Putting in its place -/

/-- Putting an element of a list in another place permutes the list. -/
theorem perm_insertIdx_concat {α : Type} (xs : List α) (x : α) (i : Nat) :
    (xs.insertIdx (min i xs.length) x).Perm (xs ++ [x]) := by
  have hsplit := List.take_append_drop (min i xs.length) xs
  rw [insertIdx_eq_append (Nat.min_le_right ..), List.append_assoc]
  calc (xs.take (min i xs.length) ++ ([x] ++ xs.drop (min i xs.length))).Perm
        (xs.take (min i xs.length) ++ (xs.drop (min i xs.length) ++ [x])) :=
        List.Perm.append_left _ List.perm_append_comm
    _ = xs ++ [x] := by rw [← List.append_assoc, hsplit]

/-- A child that is moved among its siblings stays one of them. -/
theorem sameLinks_moveLastChild (d : Document) (p : NodeId) (i : Nat) :
    d.SameLinks (d.moveLastChild p i) := by
  refine sameLinks_modify d p (fun node => ?_) (fun node => ?_) fun node => ?_
  · cases node.children.getLast? <;> rfl
  · rcases List.eq_nil_or_concat node.children with hnil | ⟨cs, c, hcs⟩
    · rw [hnil]
      exact List.Perm.of_eq hnil
    · rw [hcs, List.concat_eq_append, List.getLast?_concat, List.dropLast_concat]
      exact perm_insertIdx_concat cs c i
  · cases node.children.getLast? <;> rfl

/-- A forest stays one when a subtree is put in under an element. -/
theorem IsForest.insertSubtree (hd : dest.IsForest) (hs : source.IsForest) (hn : n < source.size)
    (hp : dest.isElement p = true) (i : Nat) : (source.insertSubtree n dest p i).IsForest := by
  obtain ⟨t, hg, hleaf⟩ := hs.exists_grafts_copySubtree hn (lt_size_of_isElement hp)
  exact (hd.grafts hg hp hleaf).of_sameLinks (sameLinks_moveLastChild _ p i)

/-- Elements stay elements when a subtree is put in. -/
theorem IsForest.isElement_insertSubtree (hs : source.IsForest) (hn : n < source.size)
    (hp : p < dest.size) (i : Nat) {m : NodeId} (hm : m < dest.size) :
    (source.insertSubtree n dest p i).isElement m = dest.isElement m := by
  obtain ⟨t, hg, -⟩ := hs.exists_grafts_copySubtree hn hp
  exact ((sameLinks_moveLastChild _ p i).isElement m).trans (hg.isElement hm)

theorem Sound.insertSubtree (hd : dest.Sound) (hs : source.IsForest) (hn : n < source.size)
    (hp : dest.isElement p = true) (i : Nat) : (source.insertSubtree n dest p i).Sound :=
  ⟨hd.forest.insertSubtree hs hn hp i, (hd.copySubtree hs hn hp).prefixes⟩

/-! ## Documents of their own -/

/-- A lone root element is a forest, whatever its namespace table. -/
theorem isForest_ofRoot (name : QName) (namespaces : List (String × String)) :
    ({ ofRoot name with namespaces } : Document).IsForest where
  root_lt := Nat.one_pos
  root_parent := rfl
  text_leaf m hm := by
    cases m with
    | zero => contradiction
    | succ m => rfl
  spanned := by
    refine ⟨[.node 0 (.element name []) []], rfl, ?_, by simp [ofRoot, size]⟩
    rw [List.forall_mem_singleton]
    exact .node rfl (by simp)

theorem sound_ofRoot (name : QName) : (ofRoot name).Sound :=
  ⟨isForest_ofRoot name [], List.nodup_nil⟩

/-- A sound document with an element at its root. -/
structure Rooted (d : Document) : Prop extends d.Sound where
  isElement : d.isElement d.root = true

theorem Rooted.setAttribute (h : d.Rooted) (name : QName) (value : String) :
    (d.setAttribute d.root name value).Rooted where
  toSound := h.toSound.setAttribute d.root name value
  isElement := ((sameLinks_setAttribute d d.root name value).isElement d.root).trans h.isElement

theorem Rooted.copySubtree (h : d.Rooted) (hs : source.IsForest) (hn : n < source.size) :
    (source.copySubtree n d d.root).Rooted := by
  obtain ⟨t, hg, hleaf⟩ := hs.exists_grafts_copySubtree hn h.forest.root_lt
  refine ⟨h.toSound.grafts hg h.isElement hleaf, ?_⟩
  rw [hg.root, hg.isElement h.forest.root_lt]
  exact h.isElement

/-- **The document of a subtree is sound**, whatever the subtree is: of an element or of a text, and
with attributes that share a name. -/
theorem Sound.subtreeDocument (h : d.Sound) (n : NodeId) : (d.subtreeDocument n).Rooted := by
  have htop : ({ ofRoot ((d.name? n).getD (.plain "text")) with
      namespaces := d.namespaces } : Document).Rooted :=
    ⟨⟨isForest_ofRoot _ _, h.prefixes⟩, rfl⟩
  have hroot := List.foldlRecOn (motive := Rooted) (d.attributes n)
    (fun (e : Document) a => e.setAttribute e.root a.name a.value) htop
    fun e he a _ => he.setAttribute a.name a.value
  exact List.foldlRecOn (motive := Rooted) (d.children n)
    (fun (e : Document) c => d.copySubtree c e e.root) hroot
    fun e he c hc => he.copySubtree h.forest (h.forest.linksForest.child_lt n c hc)

end FormEngine.Document
