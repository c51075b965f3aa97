import FormEngine.Proofs.Component.Built
import FormEngine.Proofs.Component.Links
/-!
# A shadow tree is its template with the content filled in

Filling a template works on an arena: points are unlinked one after the other, and copies are put
in at positions that are counted when their turn comes. Points may be siblings, so a position shifts
with each point filled before, and a point inside of another one is filled where nobody sees it.
What comes out is substitution all the same. The link between the two is `Tree.paint`, which reads a
tree as if the points that are still to come were filled already: filling a point does not change
what the tree is read as, and when no point is left the tree is read as it stands.
-/

namespace FormEngine

/-! ## Trees without addresses -/

/-- A tree without addresses. Each node is marked or not. -/
inductive Marked where
  | node (kind : NodeKind) (mark : Bool) (children : List Marked)

/-- An insertion point of a template. -/
def NodeKind.isPoint (kind : NodeKind) : Bool :=
  kind.name?.any fun name => name.is Namespace.xbl "content"

namespace Tree

/-- The tree without its addresses, marked where `f` holds of the address. -/
def marked (f : NodeId → Bool) : Tree → Marked
  | node n kind ts => .node kind (f n) (ts.map (marked f))

/-- The tree without its addresses, as it comes into a shadow tree: with its elements marked. -/
def copied : Tree → Marked
  | node _ kind ts => .node kind kind.isElement (ts.map copied)

/-- **Substitution.** Each point below the top gives way to the content, with all that is in it. What
is not content is not marked. -/
def fillIn (content : List Marked) : Tree → Marked
  | node _ kind ts =>
    .node kind false (ts.flatMap fun t => if t.kind.isPoint then content else [fillIn content t])

/-- What a tree under expansion is read as. The points that are still to be filled are read as the
content, and the elements with an address from `k` on are marked. -/
def paint (k : Nat) (content : List Marked) (points : List NodeId) : Tree → Marked
  | node n kind ts => .node kind (decide (k ≤ n) && kind.isElement)
      (ts.flatMap fun t => if t.id ∈ points then content else [paint k content points t])

variable {k p q i : Nat} {content : List Marked} {points : List NodeId} {t : Tree}

theorem copied_node (n : NodeId) (kind : NodeKind) (ts : List Tree) :
    copied (node n kind ts) = .node kind kind.isElement (ts.map copied) := by
  rw [copied]

theorem paint_node (n : NodeId) (kind : NodeKind) (ts : List Tree) :
    paint k content points (node n kind ts) = .node kind (decide (k ≤ n) && kind.isElement)
      (ts.flatMap fun t => if t.id ∈ points then content else [paint k content points t]) := by
  rw [paint]

/-- One function of trees in place of another, tree by tree. -/
theorem flatMap_ite_congr {ts us : List Tree} {f g : Tree → Marked} {points points' : List NodeId}
    (h : List.Forall₂ (fun t u => (t.id ∈ points ↔ u.id ∈ points') ∧ f t = g u) ts us) :
    (ts.flatMap fun t => if t.id ∈ points then content else [f t]) =
      us.flatMap fun u => if u.id ∈ points' then content else [g u] := by
  induction h with
  | nil => rfl
  | cons htu _ ih =>
    rw [List.flatMap_cons, List.flatMap_cons, ih, htu.2]
    simp only [htu.1]

/-- Trees without points are read one by one. -/
theorem flatMap_ite_of_notMem {ts : List Tree} (f : Tree → Marked) (h : ∀ t ∈ ts, t.id ∉ points) :
    (ts.flatMap fun t => if t.id ∈ points then content else [f t]) = ts.map f := by
  rw [← List.flatMap_singleton' (ts.map f), List.flatMap_map]
  exact List.flatMap_congr fun t ht => if_neg (h t ht)

/-- Addresses do not matter to a copy. -/
@[simp]
theorem copied_renumber (t : Tree) (k : Nat) : (t.renumber k).copied = t.copied :=
  eq_renumber (g := fun kind us => .node kind kind.isElement us) copied_node t k

/-- The children that are left are all, if none of them is the one that is taken out. -/
theorem others_eq_map {us cs : List Tree} (h : ∀ c ∈ cs, c.id ≠ p) :
    others p q i us cs = cs.map (exchange p q i us) := by
  refine List.filter_eq_self.2 fun c hc => ?_
  obtain ⟨c, hmem, rfl⟩ := List.mem_map.1 hc
  rw [id_exchange, bne_iff_ne]
  exact h c hmem

theorem others_cut {us before after : List Tree} (ht : t.id = p) :
    others p q i us (before ++ t :: after) = others p q i us before ++ others p q i us after := by
  have hgone : ((t.exchange p q i us).id != p) = false := by
    rw [id_exchange, ht]
    exact bne_self_eq_false p
  rw [others, List.map_append, List.map_cons, List.filter_append, List.filter_cons, hgone]
  rfl

/-- A point that is not in the tree may be filled or not. -/
theorem paint_cons_of_notMem (h : p ∉ t.ids) :
    t.paint k content (p :: points) = t.paint k content points := by
  induction t with
  | node n kind ts ih =>
    rw [ids_node, List.mem_cons, not_or, List.mem_flatMap] at h
    rw [paint_node, paint_node]
    congr 1
    refine flatMap_ite_congr (List.forall₂_same.2 fun t ht => ⟨?_, ?_⟩)
    · have hne : t.id ≠ p := fun heq => h.2 ⟨t, ht, heq ▸ t.id_mem_ids⟩
      rw [List.mem_cons, or_iff_right hne]
    · exact ih t ht fun hp => h.2 ⟨t, ht, hp⟩

/-- A copy is read as a copy. -/
theorem paint_eq_copied (ht : ∀ n ∈ t.ids, k ≤ n) (hpoints : ∀ p ∈ points, p < k) :
    t.paint k content points = t.copied := by
  induction t with
  | node n kind ts ih =>
    have hbelow : ∀ t ∈ ts, ∀ n ∈ t.ids, k ≤ n := fun t hmem n hn => by
      rw [ids_node] at ht
      exact ht n (List.mem_cons_of_mem _ (List.mem_flatMap.2 ⟨t, hmem, hn⟩))
    have hfree : ∀ t ∈ ts, t.id ∉ points := fun t hmem hp =>
      absurd (hbelow t hmem t.id t.id_mem_ids) (Nat.not_le.2 (hpoints _ hp))
    have htop : k ≤ n := ht n (by rw [ids_node]; exact List.mem_cons_self)
    rw [paint_node, copied_node, flatMap_ite_of_notMem _ hfree, decide_eq_true htop, Bool.true_and]
    exact congrArg _ (List.map_congr_left fun t hmem => ih t hmem (hbelow t hmem))

/-- Before anything is filled, a template is read as the result of the substitution. -/
theorem paint_eq_fillIn (ht : ∀ n ∈ t.ids, n < k)
    (hpoints : ∀ s ∈ t.subtrees, s.id ∈ points ↔ s.kind.isPoint = true) :
    t.paint k content points = t.fillIn content := by
  induction t with
  | node n kind ts ih =>
    have htop : ¬k ≤ n := Nat.not_le.2 (ht n (by rw [ids_node]; exact List.mem_cons_self))
    rw [paint_node, fillIn, decide_eq_false htop, Bool.false_and]
    congr 1
    refine List.flatMap_congr fun t hmem => ?_
    have hsub : ∀ s ∈ t.subtrees, s ∈ (node n kind ts).subtrees := fun s hs =>
      mem_subtrees_trans hs (child_mem_subtrees hmem)
    rw [ih t hmem (fun m hm => ht m (ids_subset_of_mem_subtrees (child_mem_subtrees hmem) hm))
      fun s hs => hpoints s (hsub s hs)]
    simp only [hpoints t (hsub t t.self_mem_subtrees)]

/-- When no point is left, a tree is read as it stands. -/
theorem marked_eq_paint {f : NodeId → Bool}
    (hf : ∀ s ∈ t.subtrees, f s.id = (decide (k ≤ s.id) && s.kind.isElement)) :
    t.marked f = t.paint k content [] := by
  induction t with
  | node n kind ts ih =>
    have htop := hf _ (self_mem_subtrees _)
    rw [id_node, kind_node] at htop
    rw [marked, paint_node, flatMap_ite_of_notMem _ fun t _ => List.not_mem_nil, htop]
    refine congrArg _ (List.map_congr_left fun t hmem => ih t hmem fun s hs => ?_)
    exact hf s (mem_subtrees_trans hs (child_mem_subtrees hmem))

end Tree

/-! ## Filling a point -/

namespace Document

variable {d : Document} {parent : Option NodeId} {t : Tree} {k p q i : Nat} {content : List Marked}
  {points : List NodeId} {us : List Tree}

/-- What has no parent is not below the root of a tree. -/
theorem Holds.notMem_ids (ht : d.Holds parent t) (hp : d.parent? p = none) (hroot : p ≠ t.id) :
    p ∉ t.ids := by
  intro hmem
  obtain ⟨s, hs, rfl⟩ := Tree.exists_subtree_of_mem_ids hmem
  rcases Tree.mem_subtrees.1 hs with rfl | ⟨c, hc, hsc⟩
  · exact hroot rfl
  · have hsome := (ht.of_mem_children hc).parent?_isSome
      (Tree.ids_subset_of_mem_subtrees hsc s.id_mem_ids)
    rw [hp] at hsome
    contradiction

/-- The children of the parent of a node, cut at the node. -/
theorem IsForest.children_cut (h : d.IsForest) {n : NodeId} {kind : NodeKind} {ts : List Tree}
    (ht : d.Holds parent (.node n kind ts)) (hp : d.parent? p = some n)
    (hi : d.childIndex? p = some i) :
    ∃ before v after, ts = before ++ v :: after ∧ before.length = i ∧ v.id = p ∧
      (∀ t ∈ before, t.id ≠ p) ∧ ∀ t ∈ after, t.id ≠ p := by
  have hids : d.children n = ts.map Tree.id := ht.children
  rw [Document.childIndex?, hp, Option.bind_some, hids, List.findIdx?_map] at hi
  obtain ⟨hlt, hat, -⟩ := List.findIdx?_eq_some_iff_getElem.1 hi
  have hv : ts[i].id = p := by simpa using hat
  have hsplit : ts = ts.take i ++ ts[i] :: ts.drop (i + 1) := by
    rw [← List.drop_eq_getElem_cons hlt, List.take_append_drop]
  -- no child is listed twice
  have hnodup := h.linksForest.nodup n
  rw [hids, hsplit, List.map_append, List.map_cons, hv, List.nodup_append, List.nodup_cons] at hnodup
  obtain ⟨-, ⟨hafter, -⟩, hbefore⟩ := hnodup
  refine ⟨ts.take i, ts[i], ts.drop (i + 1), hsplit, ?_, hv, fun t ht heq => ?_, fun t ht heq => ?_⟩
  · rw [List.length_take, Nat.min_eq_left (Nat.le_of_lt hlt)]
  · exact hbefore t.id (List.mem_map_of_mem ht) p List.mem_cons_self heq
  · exact hafter (heq ▸ List.mem_map_of_mem ht)

/-- **Filling a point does not change what the tree is read as.** -/
theorem Holds.paint_exchange (ht : d.Holds parent t) (h : d.IsForest) (hp : d.parent? p = some q)
    (hi : d.childIndex? p = some i) (hus : us.map (Tree.paint k content points) = content)
    (hfree : ∀ u ∈ us, u.id ∉ points) :
    (t.exchange p q i us).paint k content points = t.paint k content (p :: points) := by
  induction t generalizing parent with
  | node n kind ts ih =>
    -- a child that is not the point is read as before
    have hother : ∀ cs : List Tree, (∀ c ∈ cs, c ∈ ts) → (∀ c ∈ cs, c.id ≠ p) →
        ((Tree.others p q i us cs).flatMap fun c =>
          if c.id ∈ points then content else [c.paint k content points]) =
        cs.flatMap fun c =>
          if c.id ∈ p :: points then content else [c.paint k content (p :: points)] := by
      intro cs hcs hne
      rw [Tree.others_eq_map hne]
      refine Tree.flatMap_ite_congr (List.forall₂_map_left_iff.2 (List.forall₂_same.2 fun c hc => ?_))
      refine ⟨?_, ih c (hcs c hc) (ht.child c (hcs c hc))⟩
      rw [Tree.id_exchange, List.mem_cons, or_iff_right (hne c hc)]
    rw [Tree.exchange_node, Tree.paint_node, Tree.paint_node]
    congr 1
    by_cases hnq : n = q
    · -- here the point is taken out, and the copies are where it was
      subst hnq
      obtain ⟨before, v, after, rfl, hlength, hv, hbefore, hafter⟩ := h.children_cut ht hp hi
      have hlen : (Tree.others p n i us before).length = i := by
        rw [Tree.others_eq_map hbefore, List.length_map, hlength]
      rw [if_pos rfl, Tree.others_cut hv, List.take_left' hlen, List.drop_left' hlen, List.flatMap_append,
        List.flatMap_append, List.flatMap_append, List.flatMap_cons, hv, if_pos List.mem_cons_self,
        hother before (fun c hc => List.mem_append_left _ hc) hbefore,
        hother after (fun c hc => List.mem_append_right _ (List.mem_cons_of_mem v hc)) hafter,
        Tree.flatMap_ite_of_notMem _ hfree, hus, List.append_assoc]
    · -- no child is the point, since the point is a child of its parent only
      have hne : ∀ c ∈ ts, c.id ≠ p := by
        intro c hc heq
        have hparent := (ht.child c hc).parent?
        rw [heq, hp, Option.some.injEq] at hparent
        exact hnq hparent.symm
      rw [if_neg hnq]
      exact hother ts (fun c hc => hc) hne

end Document

namespace Expansion

variable {source template : Document} {content : List Tree} {shape : Marked} {points : List NodeId}
  {e : Expansion} {p : NodeId}

/-- An expansion with points still to be filled: a forest that is read as the given tree. -/
structure Reads (template : Document) (content : List Tree) (shape : Marked) (points : List NodeId)
    (e : Expansion) : Prop where
  forest : e.document.IsForest
  le : template.size ≤ e.document.size
  reads : ∃ u, e.document.HasTree u ∧ u.id = template.root ∧
    u.paint template.size (content.map Tree.copied) points = shape

namespace Reads

/-- Copies are read as the content, at whatever addresses they are. -/
theorem map_paint_renumberAll {k j : Nat} {cs : List Marked} (hpoints : ∀ p ∈ points, p < k)
    (hj : k ≤ j) (ts : List Tree) :
    (Tree.renumberAll j ts).map (Tree.paint k cs points) = ts.map Tree.copied := by
  induction ts generalizing j with
  | nil => rfl
  | cons t ts ih =>
    have hids : ∀ n ∈ (t.renumber j).ids, k ≤ n := by
      intro n hn
      rw [Tree.ids_renumber, List.mem_range'_1] at hn
      exact Nat.le_trans hj hn.1
    rw [Tree.renumberAll, List.map_cons, List.map_cons, Tree.paint_eq_copied hids hpoints,
      Tree.copied_renumber, ih (Nat.le_trans hj (Nat.le_add_right j _))]

/-- **A filled point leaves the reading as it was.** -/
theorem fill (h : Reads template content shape (p :: points) e) (hsource : source.IsForest)
    (hcontent : ∀ c ∈ content, (∃ q, source.Holds q c) ∧ c.height ≤ source.size)
    (hpoints : ∀ q ∈ points, q < template.size) (hroot : p ≠ template.root) :
    Reads template content shape points (Expansion.fill source (content.map Tree.id) e p) := by
  obtain ⟨u, hu, hid, hread⟩ := h.reads
  have hlt : ∀ c ∈ content.map Tree.id, c < source.size := by
    intro c hc
    obtain ⟨t, ht, rfl⟩ := List.mem_map.1 hc
    obtain ⟨q, hq⟩ := (hcontent t ht).1
    exact hq.id_lt
  have hforest := isForest_fill hsource hlt h.forest p
  cases hp : e.document.parent? p with
  | none =>
    have hnot : p ∉ u.ids := hu.holds.notMem_ids hp (hid.symm ▸ hroot)
    have hsame : Expansion.fill source (content.map Tree.id) e p = e := by
      rw [Expansion.fill, hp]
    rw [hsame]
    exact ⟨h.forest, h.le, u, hu, hid, (Tree.paint_cons_of_notMem hnot).symm.trans hread⟩
  | some q =>
    obtain ⟨i, hi⟩ : ∃ i, e.document.childIndex? p = some i := by
      rw [Document.childIndex?, hp, Option.bind_some]
      refine Option.isSome_iff_exists.1 (List.findIdx?_isSome.trans ?_)
      exact List.any_eq_true.2 ⟨p, h.forest.listed hp, beq_self_eq_true p⟩
    obtain ⟨hins, -⟩ := inserts_fill hcontent hp hi
    generalize Expansion.fill source (content.map Tree.id) e p = e' at hins hforest ⊢
    have hsize : e.document.size ≤ e'.document.size := by
      rw [hins.size, Document.size_detach]
      exact Nat.le_add_right _ _
    have hheld := Document.holds_exchange hp hins hu.holds
    rw [ite_self] at hheld
    -- the tree at the root is what it was, with the point exchanged for the copies
    obtain ⟨u', hu', -⟩ := hforest.exists_hasTree
    have hroot' : u'.id = (u.exchange p q i (Tree.renumberAll e.document.size content)).id := by
      rw [Tree.id_exchange, hu'.root, hins.root, Document.root_detach, hu.root]
    obtain ⟨rfl, -⟩ := hu'.holds.unique hheld hroot'
    refine ⟨hforest, Nat.le_trans h.le hsize, _, hu', ?_, ?_⟩
    · rw [Tree.id_exchange, hid]
    · rw [hu.holds.paint_exchange h.forest hp hi (map_paint_renumberAll hpoints h.le content) ?_, hread]
      intro v hv hmem
      obtain ⟨t, -, j, hj, rfl⟩ := Tree.mem_renumberAll hv
      rw [Tree.id_renumber] at hmem
      exact absurd (hpoints j hmem) (Nat.not_lt.2 (Nat.le_trans h.le hj))

/-- After all points the tree is read as at the start. -/
theorem fillAll (h : Reads template content shape points e) (hsource : source.IsForest)
    (hcontent : ∀ c ∈ content, (∃ q, source.Holds q c) ∧ c.height ≤ source.size)
    (hpoints : ∀ q ∈ points, q < template.size ∧ q ≠ template.root) :
    Reads template content shape []
      (points.foldl (Expansion.fill source (content.map Tree.id)) e) := by
  induction points generalizing e with
  | nil => exact h
  | cons p points ih =>
    rw [List.forall_mem_cons] at hpoints
    exact ih (h.fill hsource hcontent (fun q hq => (hpoints.2 q hq).1) hpoints.1.2) hpoints.2

end Reads

end Expansion

/-! ## The shadow tree of an instance -/

/-- The insertion points are the nodes of the tree that are named as such. -/
theorem Document.HasTree.mem_insertionPoints {d : Document} {t s : Tree} (ht : d.HasTree t)
    (hs : s ∈ t.subtrees) : s.id ∈ d.insertionPoints ↔ s.kind.isPoint = true := by
  obtain ⟨q, hq⟩ := ht.holds.subtree hs
  have hnamed : d.isNamed s.id Namespace.xbl "content" = s.kind.isPoint := by
    rw [Document.isNamed, hq.name?, NodeKind.isPoint]
  rw [Document.insertionPoints, List.mem_filter, ht.mem_descendants_root, hnamed]
  refine ⟨And.right, fun hpoint => ⟨⟨?_, ?_⟩, hpoint⟩⟩
  · exact Tree.ids_subset_of_mem_subtrees hs s.id_mem_ids
  · rw [hq.isElement]
    cases hkind : s.kind with
    | element name attributes => rfl
    | text value =>
      rw [hkind] at hpoint
      contradiction

/-- The root of a template is no insertion point. -/
theorem Document.IsTemplate.notMem_insertionPoints {d : Document} (h : d.IsTemplate) :
    d.root ∉ d.insertionPoints := by
  intro hmem
  have hcontent := (List.mem_filter.1 hmem).2
  have htemplate := h.named
  rw [Document.isNamed] at hcontent htemplate
  cases hname : d.name? d.root with
  | none => simp [hname] at htemplate
  | some name =>
    rw [hname, Option.any_some, QName.is_iff] at hcontent htemplate
    have hlocal := hcontent.2.symm.trans htemplate.2
    simp at hlocal

namespace ComponentRegistry

variable {r : ComponentRegistry} {source template : Document} {bound : NodeId} {name : QName}

/-- A bound element with a template has a shadow tree. -/
theorem exists_instantiate (hname : source.name? bound = some name)
    (htemplate : r.template? name = some template) (prefixedId : String)
    (outerScope innerScope : ScopeId) :
    ∃ s, r.instantiate source bound prefixedId outerScope innerScope = .ok s := by
  obtain ⟨b, hb, hsome⟩ := Option.bind_eq_some_iff.1 htemplate
  simp only [instantiate, hname, hb, hsome]
  exact ⟨_, rfl⟩

/-- **A shadow tree is its template with the content filled in.** For every registry that can be
built, every well-formed document and every element in it with a template, there is a shadow tree; it
is well formed, and read from its root it is the tree of the template in which every insertion point
that is not inside of another one gives way, in its place, to the children of the element that handle
no event, in their order and texts among them. The outer elements of the tree are those of the
copies, and no others. -/
theorem Built.instantiate_eq_fillIn (hr : r.Built) (hsource : source.check = .ok ())
    (hname : source.name? bound = some name) (htemplate : r.template? name = some template)
    (prefixedId : String) (outerScope innerScope : ScopeId) :
    ∃ s t parent b u, r.instantiate source bound prefixedId outerScope innerScope = .ok s ∧
      s.document.check = .ok () ∧ template.HasTree t ∧ source.Holds parent b ∧ b.id = bound ∧
      s.document.HasTree u ∧ u.marked s.isOuter = t.fillIn (b.content.map Tree.copied) := by
  have hforest := Document.check_eq_ok_iff.1 hsource
  have htempl := hr.templated.isTemplate htemplate
  obtain ⟨s, hs⟩ := exists_instantiate hname htemplate prefixedId outerScope innerScope
  have hbound : bound < source.size := by
    refine Nat.not_le.1 fun hge => ?_
    simp [Document.name?, Document.node?_of_size_le hge] at hname
  obtain ⟨parent, b, hb, rfl, -, hheight⟩ := hforest.exists_tree hbound
  obtain ⟨t, ht, -⟩ := htempl.forest.exists_hasTree
  have hcontent : ∀ c ∈ b.content, (∃ q, source.Holds q c) ∧ c.height ≤ source.size := by
    intro c hc
    have hmem := List.mem_of_mem_filter hc
    exact ⟨⟨some b.id, hb.of_mem_children hmem⟩,
      Nat.le_trans (Tree.height_le_of_mem_children hmem) hheight⟩
  have hpoints : ∀ p ∈ template.insertionPoints, p < template.size ∧ p ≠ template.root := by
    refine fun p hp => ⟨Document.lt_of_mem_descendantsWithin (List.mem_of_mem_filter hp), ?_⟩
    rintro rfl
    exact htempl.notMem_insertionPoints hp
  -- what the template is read as with all points to come is kept until none is left
  have hstart : Expansion.Reads template b.content (t.fillIn (b.content.map Tree.copied))
      template.insertionPoints { document := template } :=
    ⟨htempl.forest, Nat.le_refl _, t, ht, ht.root,
      Tree.paint_eq_fillIn (fun n hn => ht.holds.lt_of_mem_ids hn) fun v hv =>
        ht.mem_insertionPoints hv⟩
  have hend := hstart.fillAll hforest hcontent hpoints
  rw [← hb.componentContent, ← expansion_of_instantiate hs hname htemplate] at hend
  obtain ⟨u, hu, -, hread⟩ := hend.reads
  have hexpands :=
    expands_of_instantiate hs hname htemplate hforest.grounded htempl.forest.grounded
  refine ⟨s, t, parent, b, u, hs, Document.check_eq_ok_iff.2 hend.forest, ht, hb, rfl, hu, ?_⟩
  rw [← hread]
  refine Tree.marked_eq_paint fun v hv => ?_
  obtain ⟨q, hq⟩ := hu.holds.subtree hv
  rw [Bool.eq_iff_iff, ShadowTree.isOuter, List.contains_iff_mem, hexpands.outer, Bool.and_eq_true,
    decide_eq_true_iff, ← hq.isElement]

/-- A form with a binding and an instance. The template has two points side by side, the second with
a point inside of it, and one point after a text; the instance has a text, an element and an event
handler. -/
def panelForm : Document :=
  { nodes :=
      #[{ kind := .element (.plain "form") [], children := [1, 9] },
        { kind := .element { nsPrefix := "xbl", uri := Namespace.xbl, localName := "binding" }
            [⟨.plain "element", "fr|panel"⟩]
          parent := some 0, children := [2] },
        { kind := .element { nsPrefix := "xbl", uri := Namespace.xbl, localName := "template" } []
          parent := some 1, children := [3, 7, 8] },
        { kind := .element (.plain "head") [], parent := some 2, children := [4, 5] },
        { kind := .element { nsPrefix := "xbl", uri := Namespace.xbl, localName := "content" } []
          parent := some 3 },
        { kind := .element { nsPrefix := "xbl", uri := Namespace.xbl, localName := "content" } []
          parent := some 3, children := [6] },
        { kind := .element { nsPrefix := "xbl", uri := Namespace.xbl, localName := "content" } []
          parent := some 5 },
        { kind := .text "and", parent := some 2 },
        { kind := .element { nsPrefix := "xbl", uri := Namespace.xbl, localName := "content" } []
          parent := some 2 },
        { kind := .element { nsPrefix := "fr", uri := "fr", localName := "panel" } []
          parent := some 0, children := [10, 11, 13] },
        { kind := .text "Hello", parent := some 9 },
        { kind := .element (.plain "name") [], parent := some 9, children := [12] },
        { kind := .text "you", parent := some 11 },
        { kind := .element (.plain "action")
            [⟨{ nsPrefix := "ev", uri := Namespace.events, localName := "event" }, "DOMActivate"⟩]
          parent := some 9 }]
    root := 0
    namespaces := [("xbl", Namespace.xbl), ("fr", "fr"), ("ev", Namespace.events)] }

theorem instantiate_eq_fillIn_panel :
    ∃ r template, ofDocument panelForm = .ok r ∧ panelForm.check = .ok () ∧
      r.template? { uri := "fr", localName := "panel" } = some template ∧
      template.insertionPoints.length = 4 ∧
      ∃ s t parent b u, r.instantiate panelForm 9 "panel" 0 1 = .ok s ∧
        s.document.check = .ok () ∧ template.HasTree t ∧ panelForm.Holds parent b ∧ b.id = 9 ∧
        s.document.HasTree u ∧ u.marked s.isOuter = t.fillIn (b.content.map Tree.copied) := by
  obtain ⟨r, hr⟩ : ∃ r, ofDocument panelForm = .ok r := ⟨_, rfl⟩
  have hcheck : panelForm.check = .ok () := by decide
  have hbuilt : r.Built := .ofDocument (.accepted hcheck (by decide)) hr
  have htemplate : r.template? { nsPrefix := "fr", uri := "fr", localName := "panel" } =
      some (panelForm.subtreeDocument 2) := by
    obtain rfl := Except.ok.inj hr
    rfl
  exact ⟨r, _, hr, hcheck, htemplate, by decide,
    hbuilt.instantiate_eq_fillIn hcheck (rfl : panelForm.name? 9 = _) htemplate "panel" 0 1⟩

end ComponentRegistry

end FormEngine
