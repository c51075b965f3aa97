import FormEngine.Proofs.Component.Instance
import FormEngine.Proofs.Document.Edit
/-!
# What a template keeps of its links

A point that is filled is unlinked, and copies are put in under its parent. So a shadow tree is a
forest again, a node of the template has the parent that it was written under unless it is a point,
and copies stand under the parents of points only. What has no point above it has the ancestors that
it was written with and is reached from the root as before.
-/

namespace FormEngine

/-- The elements of a tree are among its addresses, in the same order. -/
theorem Tree.elements_sublist_ids (t : Tree) : t.elements.Sublist t.ids := by
  induction t with
  | node n kind ts ih =>
    rw [elements_node, ids_node]
    split
    · refine List.Sublist.cons_cons n ?_
      induction ts with
      | nil => exact List.Sublist.refl []
      | cons t ts ih' =>
        rw [List.flatMap_cons, List.flatMap_cons]
        exact (ih t List.mem_cons_self).append (ih' fun u hu => ih u (List.mem_cons_of_mem t hu))
    · exact List.nil_sublist _

namespace Document

variable {d : Document} {n p : NodeId}

/-! ## Ways up in a forest -/

/-- The way up from a node is its parent and the way up from there. -/
theorem IsForest.ancestors_of_parent? (h : d.IsForest) (hp : d.parent? n = some p) :
    d.ancestors n = p :: d.ancestors p := by
  rw [← h.ancestorsWithin (lt_size_of_parent? hp) (Nat.le_succ d.size), Document.ancestorsWithin, hp,
    ancestors]

theorem IsForest.parent?_mem_ancestors (h : d.IsForest) (hp : d.parent? n = some p) :
    p ∈ d.ancestors n := by
  rw [h.ancestors_of_parent? hp]
  exact List.mem_cons_self

/-- The parent of an ancestor is an ancestor. -/
theorem IsForest.mem_ancestors_of_parent? (h : d.IsForest) {a : NodeId} (hn : n < d.size)
    (ha : a ∈ d.ancestors n) (hp : d.parent? a = some p) : p ∈ d.ancestors n := by
  have hup : ∀ fuel n, a ∈ d.ancestorsWithin fuel n → p ∈ d.ancestorsWithin (fuel + 1) n := by
    intro fuel
    induction fuel with
    | zero => intro n ha; simp [Document.ancestorsWithin] at ha
    | succ fuel ih =>
      intro n ha
      rw [Document.ancestorsWithin] at ha
      cases hq : d.parent? n with
      | none => simp [hq] at ha
      | some q =>
        have hstep : d.ancestorsWithin (fuel + 2) n = q :: d.ancestorsWithin (fuel + 1) q := by
          rw [Document.ancestorsWithin, hq]
        rw [hq, List.mem_cons] at ha
        rw [hstep]
        rcases ha with rfl | ha
        · rw [Document.ancestorsWithin, hp]
          exact List.mem_cons_of_mem _ List.mem_cons_self
        · exact List.mem_cons_of_mem _ (ih q ha)
  rw [← h.ancestorsWithin hn (Nat.le_succ d.size)]
  exact hup d.size n ha

/-- What has a node among its ancestors hangs from it. -/
theorem IsForest.mem_ids_of_ancestor (h : d.IsForest) {parent : Option NodeId} {t : Tree}
    (ht : d.Holds parent t) {fuel : Nat} (ha : t.id ∈ d.ancestorsWithin fuel n) : n ∈ t.ids := by
  induction fuel generalizing n with
  | zero => simp [Document.ancestorsWithin] at ha
  | succ fuel ih =>
    rw [Document.ancestorsWithin] at ha
    cases hq : d.parent? n with
    | none => simp [hq] at ha
    | some q =>
      rw [hq, List.mem_cons] at ha
      have hqt : q ∈ t.ids := by
        rcases ha with rfl | ha
        · exact t.id_mem_ids
        · exact ih ha
      obtain ⟨s, hs, rfl⟩ := Tree.exists_subtree_of_mem_ids hqt
      obtain ⟨parent', hs'⟩ := ht.subtree hs
      have hlisted := h.listed hq
      rw [hs'.children, List.mem_map] at hlisted
      obtain ⟨c, hc, rfl⟩ := hlisted
      have hcs : c ∈ s.subtrees := Tree.mem_subtrees.2 (.inr ⟨c, hc, c.self_mem_subtrees⟩)
      exact Tree.ids_subset_of_mem_subtrees (Tree.mem_subtrees_trans hcs hs) c.id_mem_ids

/-- **An element is reached from the root exactly if the way up from it ends there.** -/
theorem IsForest.mem_descendants_root (h : d.IsForest) :
    n ∈ d.descendants d.root ↔ d.isElement n = true ∧ (n = d.root ∨ d.root ∈ d.ancestors n) := by
  obtain ⟨t, ht, -⟩ := h.exists_hasTree
  rw [ht.mem_descendants_root, and_comm]
  refine and_congr_right fun _ => ⟨fun hn => ?_, ?_⟩
  · obtain ⟨s, hs, rfl⟩ := Tree.exists_subtree_of_mem_ids hn
    rcases Tree.mem_subtrees.1 hs with rfl | ⟨c, hc, hsc⟩
    · exact .inl ht.root
    · rw [← ht.root]
      exact .inr (h.parent_mem_ancestors (ht.holds.of_mem_children hc)
        (Tree.ids_subset_of_mem_subtrees hsc s.id_mem_ids))
  · rintro (rfl | hroot)
    · exact ht.root ▸ t.id_mem_ids
    · rw [← ht.root] at hroot
      exact h.mem_ids_of_ancestor ht.holds hroot

/-- The walk down from the root comes to no element twice. -/
theorem IsForest.nodup_descendants_root (h : d.IsForest) : (d.descendants d.root).Nodup := by
  obtain ⟨t, ht, hnodup⟩ := h.exists_hasTree
  rw [ht.descendants_root]
  exact hnodup.sublist t.elements_sublist_ids

end Document

namespace Expansion

variable {source template : Document} {points : List NodeId} {e : Expansion} {p n : NodeId}

/-! ## A shadow tree is a forest -/

theorem isForest_insertAll (hsource : source.IsForest) {content : List NodeId}
    (hcontent : ∀ c ∈ content, c < source.size) (he : e.document.IsForest)
    (hp : e.document.isElement p = true) (i : Nat) :
    (insertAll source p i content e).document.IsForest := by
  induction content generalizing e i with
  | nil => exact he
  | cons c content ih =>
    rw [List.forall_mem_cons] at hcontent
    have hlt := Document.lt_size_of_isElement hp
    refine ih hcontent.2 (he.insertSubtree hsource hcontent.1 hp i) ?_ (i + 1)
    exact (hsource.isElement_insertSubtree hcontent.1 hlt i hlt).trans hp

theorem isForest_fill (hsource : source.IsForest) {content : List NodeId}
    (hcontent : ∀ c ∈ content, c < source.size) (he : e.document.IsForest) (p : NodeId) :
    (fill source content e p).document.IsForest := by
  unfold fill
  split
  · rename_i q i hq _
    refine isForest_insertAll hsource hcontent (he.detach (Document.lt_size_of_parent? hq)) ?_ i
    rw [Document.isElement_detach]
    exact he.grounded.isElement_of_child (he.listed hq)
  · exact he

/-! ## Parents and copies -/

/-- The links of a template of which points from a list have been filled. -/
structure Links (template : Document) (points : List NodeId) (e : Expansion) : Prop where
  forest : e.document.IsForest
  root : e.document.root = template.root
  le : template.size ≤ e.document.size
  /-- No node of the template gets another parent. -/
  parent : ∀ n < template.size, ∀ q, e.document.parent? n = some q → template.parent? n = some q
  /-- Only a point loses its parent. -/
  kept : ∀ n < template.size, n ∉ points → e.document.parent? n = template.parent? n
  /-- A copy stands in the place of a point. -/
  copies : ∀ n < template.size, ∀ c ∈ e.document.children n, template.size ≤ c →
    ∃ p ∈ points, template.parent? p = some n

namespace Links

theorem start (h : template.IsForest) (points : List NodeId) :
    Links template points { document := template } where
  forest := h
  root := rfl
  le := Nat.le_refl _
  parent _ _ _ hq := hq
  kept _ _ _ := rfl
  copies _ _ _ hc hge := absurd (h.grounded.children_lt hc) (Nat.not_lt.2 hge)

/-- One more point is filled. -/
theorem fill (h : Links template points e) (hsource : source.IsForest) {content : List NodeId}
    (hcontent : ∀ c ∈ content, c < source.size) (hp : p ∈ points) (hlt : p < template.size) :
    Links template points (Expansion.fill source content e p) := by
  have hforest := isForest_fill hsource hcontent h.forest p
  obtain ⟨ts, rfl, hts⟩ := hsource.grounded.exists_trees hcontent
  rcases fill_spec (fun t ht => ⟨(hts t ht).1, (hts t ht).2.1⟩) with heq | ⟨q, i, hq, -, hins, -⟩
  · rw [heq]
    exact h
  generalize Expansion.fill source (ts.map Tree.id) e p = e' at hforest hins ⊢
  have hparent : ∀ n < template.size,
      e'.document.parent? n = if n = p then none else e.document.parent? n := by
    intro n hn
    rw [Document.parent?, Document.node?_exchange hq hins (Nat.lt_of_lt_of_le hn h.le),
      Document.parent?]
    cases e.document.node? n with
    | none => rw [Option.map_none, Option.bind_none, ite_self]
    | some node => rfl
  refine ⟨hforest, ?_, ?_, ?_, ?_, ?_⟩
  · rw [hins.root, Document.root_detach, h.root]
  · rw [hins.size, Document.size_detach]
    exact Nat.le_trans h.le (Nat.le_add_right _ _)
  · intro n hn m hm
    rw [hparent n hn] at hm
    split at hm
    · contradiction
    · exact h.parent n hn m hm
  · intro n hn hnot
    have hne : n ≠ p := fun heq => hnot (heq ▸ hp)
    rw [hparent n hn, if_neg hne, h.kept n hn hnot]
  · intro n hn c hc hge
    by_cases hnq : n = q
    · exact ⟨p, hp, hnq ▸ h.parent p hlt q hq⟩
    · rw [Document.children_exchange hq hins (Nat.lt_of_lt_of_le hn h.le) hnq] at hc
      exact h.copies n hn c hc hge

variable (h : Links template points e)

include h

/-- A node keeps its parent unless it is a point, and the root has none to lose. -/
theorem parent?_eq (htemplate : template.IsForest) (hn : n < template.size)
    (hfree : n ∈ points → n = template.root) :
    e.document.parent? n = template.parent? n := by
  by_cases hp : n ∈ points
  · obtain rfl := hfree hp
    cases hq : e.document.parent? template.root with
    | none => exact htemplate.root_parent.symm
    | some q => exact (h.parent _ hn q hq).symm
  · exact h.kept n hn hp

/-- The way up from a node of the template on which no point stands but possibly the root. -/
theorem ancestors_eq (htemplate : template.IsForest) (hn : n < template.size)
    (hfree : ∀ a ∈ n :: template.ancestors n, a ∈ points → a = template.root) :
    e.document.ancestors n = template.ancestors n := by
  have hup : ∀ fuel, ∀ n < template.size,
      (∀ a ∈ n :: template.ancestorsWithin fuel n, a ∈ points → a = template.root) →
      e.document.ancestorsWithin fuel n = template.ancestorsWithin fuel n := by
    intro fuel
    induction fuel with
    | zero => exact fun _ _ _ => rfl
    | succ fuel ih =>
      intro n hn hfree
      rw [Document.ancestorsWithin] at hfree ⊢
      rw [Document.ancestorsWithin, h.parent?_eq htemplate hn (hfree n List.mem_cons_self)]
      cases hp : template.parent? n with
      | none => rfl
      | some p =>
        rw [hp] at hfree
        have habove := ih p (htemplate.parent_lt hp) fun a ha => hfree a (List.mem_cons_of_mem _ ha)
        simp only [habove]
  have hfuel := htemplate.ancestorsWithin hn h.le
  rw [Document.ancestors, hup _ n hn, hfuel]
  rw [hfuel]
  exact hfree

/-- What has a copy below it has a point below it in the template. -/
theorem exists_point (htemplate : template.IsForest) (hpoints : ∀ p ∈ points, p < template.size)
    {parent : Option NodeId} {v u : Tree} (hv : e.document.Holds parent v)
    (hlt : v.id < template.size) (hu : u ∈ v.subtrees) (hge : template.size ≤ u.id) :
    ∃ p ∈ points, v.id ∈ template.ancestors p := by
  induction v generalizing parent with
  | node m kind ts ih =>
    rcases Tree.mem_subtrees.1 hu with rfl | ⟨c, hc, hu⟩
    · exact absurd hlt (Nat.not_lt.2 hge)
    by_cases hcopy : template.size ≤ c.id
    · -- the way down leaves the template here
      have hmem : c.id ∈ e.document.children m := by
        rw [show e.document.children m = _ from hv.children]
        exact List.mem_map_of_mem hc
      obtain ⟨p, hp, hparent⟩ := h.copies m hlt c.id hmem hcopy
      exact ⟨p, hp, htemplate.parent?_mem_ancestors hparent⟩
    · have hc' := hv.child c hc
      rw [Nat.not_le] at hcopy
      obtain ⟨p, hp, hancestor⟩ := ih c hc hc' hcopy hu
      have hparent := h.parent c.id hcopy m hc'.parent?
      exact ⟨p, hp, htemplate.mem_ancestors_of_parent? (hpoints p hp) hancestor hparent⟩

end Links

end Expansion

/-- **The links of a shadow tree** are those of the template, but for its insertion points. -/
theorem ComponentRegistry.links_of_instantiate {r : ComponentRegistry} {source template : Document}
    {bound : NodeId} {name : QName} {key : String} {outerScope innerScope : ScopeId} {s : ShadowTree}
    (h : r.instantiate source bound key outerScope innerScope = .ok s)
    (hname : source.name? bound = some name) (htemplate : r.template? name = some template)
    (hsource : source.IsForest) (hforest : template.IsForest) :
    Expansion.Links template template.insertionPoints ⟨s.document, s.outerNodes⟩ := by
  rw [expansion_of_instantiate h hname htemplate]
  refine List.foldlRecOn (motive := Expansion.Links template template.insertionPoints)
    template.insertionPoints _ (.start hforest _) fun e he p hp => ?_
  refine he.fill hsource (fun c hc => ?_) hp ?_
  · exact hsource.grounded.children_lt (List.mem_of_mem_filter hc)
  · exact Document.lt_of_mem_descendantsWithin (List.mem_of_mem_filter hp)

end FormEngine
