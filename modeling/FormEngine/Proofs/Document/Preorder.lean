import FormEngine.Proofs.Document.Forest
/-!
# Document order

The addresses of a document are in document order if the walk over the tree at its root comes to the
nodes as they are numbered: then a node comes after its parent, siblings come in turn, and so do
their subtrees. A document that is read from the front keeps this. What is read next always goes to
the end of the children of a node that is still open, and open nodes are on the right edge of the
tree: nothing in it comes after them but what is below them.
-/

namespace FormEngine

/-! ## The right edge of a tree -/

namespace Tree

/-- The node is the top of the tree, or on the right edge of the last of the trees below the top. -/
inductive OnEdge (p : NodeId) : Tree → Prop
  | top (kind : NodeKind) (ts : List Tree) : OnEdge p (node p kind ts)
  | last {n : NodeId} {kind : NodeKind} {ts : List Tree} {t : Tree} (hlast : ts.getLast? = some t)
      (h : OnEdge p t) : OnEdge p (node n kind ts)

variable {p q n : NodeId} {kind : NodeKind} {ts : List Tree} {t u : Tree}

theorem OnEdge.mem_ids (h : u.OnEdge p) : p ∈ u.ids := by
  induction h with
  | top kind ts => exact id_mem_ids _
  | last hlast _ ih =>
    exact ids_subset_of_mem_subtrees (child_mem_subtrees (List.mem_of_getLast? hlast)) ih

theorem onEdge_id (t : Tree) : t.OnEdge t.id := by
  cases t
  exact .top _ _

theorem notMem_of_nodup (h : (node n kind ts).ids.Nodup) : n ∉ ts.flatMap ids := by
  rw [ids_node, List.nodup_cons] at h
  exact h.1

/-- What is grafted inside the last of the trees below the top leaves the others as they are. -/
theorem graft_last (hp : p ∈ t.ids) (h : (node n kind (ts ++ [t])).ids.Nodup) (s : Tree) :
    graft p s (node n kind (ts ++ [t])) = node n kind (ts ++ [graft p s t]) := by
  rw [ids_node, List.nodup_cons, List.flatMap_append, List.flatMap_singleton] at h
  obtain ⟨hn, hnodup⟩ := h
  have hne : n ≠ p := by
    rintro rfl
    exact hn (List.mem_append_right _ hp)
  have hbefore : p ∉ ts.flatMap ids := by
    intro hmem
    exact (List.nodup_append.1 hnodup).2.2 p hmem p hp rfl
  rw [graft_node, List.map_append, map_graft_of_notMem s hbefore, if_neg hne, List.append_nil,
    List.map_singleton]

/-- **What is grafted to the right edge comes last.** -/
theorem OnEdge.ids_graft (h : u.OnEdge p) (hnodup : u.ids.Nodup) (s : Tree) :
    (graft p s u).ids = u.ids ++ s.ids := by
  induction h with
  | top kind ts =>
    rw [graft_top s (notMem_of_nodup hnodup), ids_node, ids_node, List.flatMap_append,
      List.flatMap_singleton]
    rfl
  | @last n kind ts t hlast h ih =>
    have hsub : t.ids.Sublist (node n kind ts).ids :=
      sublist_ids_of_mem_subtrees (child_mem_subtrees (List.mem_of_getLast? hlast))
    obtain ⟨before, rfl⟩ := List.getLast?_eq_some_iff.1 hlast
    rw [graft_last h.mem_ids hnodup, ids_node, ids_node, List.flatMap_append,
      List.flatMap_append, List.flatMap_singleton, List.flatMap_singleton, ih (hnodup.sublist hsub),
      ← List.append_assoc]
    rfl

/-- The top of what is grafted to the right edge is on the right edge. -/
theorem OnEdge.graft_self (h : u.OnEdge p) (hnodup : u.ids.Nodup) (s : Tree) :
    (graft p s u).OnEdge s.id := by
  induction h with
  | top kind ts =>
    rw [graft_top s (notMem_of_nodup hnodup)]
    exact .last (by simp) (onEdge_id s)
  | @last n kind ts t hlast h ih =>
    have hsub : t.ids.Sublist (node n kind ts).ids :=
      sublist_ids_of_mem_subtrees (child_mem_subtrees (List.mem_of_getLast? hlast))
    obtain ⟨before, rfl⟩ := List.getLast?_eq_some_iff.1 hlast
    rw [graft_last h.mem_ids hnodup]
    exact .last (by simp) (ih (hnodup.sublist hsub))

/-- The nodes down to the one that is grafted to stay on the right edge. -/
theorem OnEdge.graft (hq : u.OnEdge q) (h : u.OnEdge p) (hle : q ≤ p)
    (hsorted : u.ids.Pairwise (· < ·)) (s : Tree) : (Tree.graft p s u).OnEdge q := by
  have hnodup : u.ids.Nodup := hsorted.imp Nat.ne_of_lt
  induction hq with
  | top kind ts =>
    rw [graft_node]
    exact .top _ _
  | @last n kind ts t hlast hq ih =>
    have hsub : t.ids.Sublist (node n kind ts).ids :=
      sublist_ids_of_mem_subtrees (child_mem_subtrees (List.mem_of_getLast? hlast))
    cases h with
    | top =>
      -- the top comes before everything below it, so the node is not below it
      have hbelow : q ∈ ts.flatMap ids :=
        (sublist_ids_of_mem (List.mem_of_getLast? hlast)).subset hq.mem_ids
      rw [ids_node, List.pairwise_cons] at hsorted
      exact absurd hle (Nat.not_le.2 (hsorted.1 q hbelow))
    | last hlast' h =>
      obtain rfl : t = _ := Option.some.inj (hlast.symm.trans hlast')
      obtain ⟨before, rfl⟩ := List.getLast?_eq_some_iff.1 hlast
      rw [graft_last h.mem_ids hnodup]
      exact .last (by simp) (ih h (hsorted.sublist hsub) (hnodup.sublist hsub))

end Tree

namespace Document

variable {d d' : Document} {n p : NodeId} {parent : Option NodeId} {t : Tree}

/-! ## The walk over all nodes -/

/-- The nodes of the first `fuel` levels of a subtree, in document order. -/
def nodesWithin (d : Document) : Nat → NodeId → List NodeId
  | 0, _ => []
  | fuel + 1, n => n :: (d.children n).flatMap (d.nodesWithin fuel)

/-- The nodes of the subtree under a node, the node included, in document order. -/
def subtreeNodes (d : Document) (n : NodeId) : List NodeId :=
  d.nodesWithin d.size n

/-- With fuel for its height a held tree is walked whole. -/
theorem Holds.nodesWithin (h : d.Holds parent t) {fuel : Nat} (hfuel : t.height ≤ fuel) :
    d.nodesWithin fuel t.id = t.ids := by
  induction t generalizing parent fuel with
  | node n kind ts ih =>
    cases fuel with
    | zero => exact absurd hfuel (Nat.not_le.2 (Tree.height_pos _))
    | succ fuel =>
      have hbelow : ∀ t ∈ ts, d.nodesWithin fuel t.id = t.ids := by
        intro t ht
        exact ih t ht (h.child t ht) (Tree.height_node_le.1 hfuel t ht)
      rw [Tree.id_node, Document.nodesWithin, h.flatMap_children, Tree.ids_node,
        List.flatMap_congr hbelow]

theorem Holds.subtreeNodes (h : d.Holds parent t) (hnodup : t.ids.Nodup) :
    d.subtreeNodes t.id = t.ids :=
  h.nodesWithin (Nat.le_trans t.height_le_length_ids (h.length_ids_le hnodup))

/-! ## Addresses in document order -/

/-- The walk from the root comes to all nodes, in the order of their addresses. So parents come before
their children, siblings come in turn, and all of the subtree of one of them comes before the next. -/
structure InDocumentOrder (d : Document) : Prop where
  walk : d.subtreeNodes d.root = List.range d.size
  parent_lt : ∀ n p, d.parent? n = some p → p < n
  siblings : ∀ n, (d.children n).Pairwise (· < ·)
  subtrees : ∀ n, (d.children n).Pairwise fun c c' =>
    ∀ m ∈ d.subtreeNodes c, ∀ m' ∈ d.subtreeNodes c', m < m'

/-- What is above a node of a held tree is in the tree, or above the top. -/
theorem Holds.parent?_cases (h : d.Holds parent t) {s : Tree} (hs : s ∈ t.subtrees) :
    (s = t ∧ d.parent? s.id = parent) ∨ ∃ r ∈ t.subtrees, s ∈ r.children ∧ d.parent? s.id = some r.id := by
  rcases Tree.eq_or_child_of_mem_subtrees hs with rfl | ⟨r, hr, hsr⟩
  · exact .inl ⟨rfl, h.parent?⟩
  · obtain ⟨q, hq⟩ := h.subtree hr
    cases r
    exact .inr ⟨_, hr, hsr, (hq.child s hsr).parent?⟩

/-- **A document whose tree has the addresses in order is in document order.** -/
theorem Holds.inDocumentOrder (h : d.Holds none t) (hroot : t.id = d.root)
    (hids : t.ids = List.range d.size) : d.InDocumentOrder := by
  have hsorted : t.ids.Pairwise (· < ·) := hids ▸ List.pairwise_lt_range
  have hsub : ∀ s ∈ t.subtrees, s.ids.Pairwise (· < ·) := by
    intro s hs
    exact hsorted.sublist (Tree.sublist_ids_of_mem_subtrees hs)
  have hwalk : ∀ s ∈ t.subtrees, d.subtreeNodes s.id = s.ids := by
    intro s hs
    obtain ⟨q, hq⟩ := h.subtree hs
    exact hq.subtreeNodes ((hsub s hs).imp Nat.ne_of_lt)
  have hmem : ∀ n < d.size, ∃ s ∈ t.subtrees, s.id = n := by
    intro n hn
    exact Tree.exists_subtree_of_mem_ids (hids ▸ List.mem_range.2 hn)
  -- of the children of a node all that is below the first comes before all that is below the next
  have hblocks : ∀ n, ∃ ts : List Tree, d.children n = ts.map Tree.id ∧
      (∀ s ∈ ts, s ∈ t.subtrees) ∧ ts.Pairwise fun s s' => ∀ m ∈ s.ids, ∀ m' ∈ s'.ids, m < m' := by
    intro n
    by_cases hn : n < d.size
    · obtain ⟨⟨_, kind, ts⟩, hs, rfl⟩ := hmem n hn
      obtain ⟨q, hq⟩ := h.subtree hs
      have hpairwise := hsub _ hs
      rw [Tree.ids_node, List.pairwise_cons, List.pairwise_flatMap] at hpairwise
      refine ⟨ts, hq.children, ?_, hpairwise.2.2⟩
      intro s hst
      exact Tree.mem_subtrees_trans (Tree.child_mem_subtrees hst) hs
    · exact ⟨[], children_of_size_le (Nat.not_lt.1 hn), by simp, .nil⟩
  refine ⟨?_, ?_, ?_, ?_⟩
  · rw [← hroot, hwalk t t.self_mem_subtrees, hids]
  · intro n p hp
    obtain ⟨s, hs, rfl⟩ := hmem n (lt_size_of_parent? hp)
    rcases h.parent?_cases hs with ⟨-, hnone⟩ | ⟨⟨_, kind, ts⟩, hr, hsr, hparent⟩
    · rw [hnone] at hp
      contradiction
    · obtain rfl := Option.some.inj (hparent.symm.trans hp)
      have hpairwise := hsub _ hr
      rw [Tree.ids_node, List.pairwise_cons] at hpairwise
      exact hpairwise.1 s.id ((Tree.sublist_ids_of_mem hsr).subset s.id_mem_ids)
  · intro n
    obtain ⟨ts, hchildren, -, hpairwise⟩ := hblocks n
    rw [hchildren, List.pairwise_map]
    exact hpairwise.imp fun hlt => hlt _ (Tree.id_mem_ids _) _ (Tree.id_mem_ids _)
  · intro n
    obtain ⟨ts, hchildren, hin, hpairwise⟩ := hblocks n
    rw [hchildren, List.pairwise_map]
    refine hpairwise.imp_of_mem ?_
    intro s s' hs hs' hlt
    rwa [hwalk s (hin s hs), hwalk s' (hin s' hs')]

/-! ## Reading from the front -/

/-- The document is one tree with addresses in document order, and these nodes of its right edge are
open, the innermost first. -/
structure OpenAt (d : Document) (path : List NodeId) : Prop where
  tree : ∃ t, d.Holds none t ∧ t.id = d.root ∧ t.ids = List.range d.size ∧ ∀ p ∈ path, t.OnEdge p
  inner : path.Pairwise (· > ·)

theorem OpenAt.inDocumentOrder {path : List NodeId} (h : d.OpenAt path) : d.InDocumentOrder := by
  obtain ⟨t, ht, hroot, hids, -⟩ := h.tree
  exact ht.inDocumentOrder hroot hids

theorem OpenAt.lt_size {path : List NodeId} (h : d.OpenAt path) (hp : p ∈ path) : p < d.size := by
  obtain ⟨t, ht, -, -, hedge⟩ := h.tree
  exact ht.lt_of_mem_ids (hedge p hp).mem_ids

/-- Some of the open nodes are closed. -/
theorem OpenAt.close {path outer : List NodeId} (h : d.OpenAt path) (hsub : outer.Sublist path) :
    d.OpenAt outer := by
  obtain ⟨t, ht, hroot, hids, hedge⟩ := h.tree
  exact ⟨⟨t, ht, hroot, hids, fun p hp => hedge p (hsub.subset hp)⟩, h.inner.sublist hsub⟩

/-- **A new node under the innermost open one** keeps the order, and it may be open itself. -/
theorem OpenAt.append {outer : List NodeId} (h : d.OpenAt (p :: outer)) (kind : NodeKind) :
    (d.append p kind).OpenAt (d.size :: p :: outer) := by
  obtain ⟨t, ht, hroot, hids, hedge⟩ := h.tree
  have hsorted : t.ids.Pairwise (· < ·) := hids ▸ List.pairwise_lt_range
  have hnodup : t.ids.Nodup := hsorted.imp Nat.ne_of_lt
  have hp : t.OnEdge p := hedge p List.mem_cons_self
  have hle : ∀ q ∈ p :: outer, q ≤ p := by
    intro q hq
    rcases List.mem_cons.1 hq with rfl | hq
    · exact Nat.le_refl q
    · exact Nat.le_of_lt ((List.pairwise_cons.1 h.inner).1 q hq)
  have hgrafts := grafts_append (h.lt_size List.mem_cons_self) kind
  refine ⟨⟨Tree.graft p (.node d.size kind []) t, hgrafts.holds_graft ht, ?_, ?_, ?_⟩, ?_⟩
  · rw [Tree.id_graft, hroot]
    rfl
  · rw [hp.ids_graft hnodup, size_append, List.range_succ, hids]
    simp
  · intro q hq
    rcases List.mem_cons.1 hq with rfl | hq
    · exact hp.graft_self hnodup (.node d.size kind [])
    · exact (hedge q hq).graft hp (hle q hq) hsorted _
  · exact List.pairwise_cons.2 ⟨fun q hq => h.lt_size hq, h.inner⟩

/-- Whether nodes are open in a document depends on its nodes alone. -/
theorem OpenAt.congr {path : List NodeId} (h : d.OpenAt path) (hnodes : d'.nodes = d.nodes)
    (hroot : d'.root = d.root) : d'.OpenAt path := by
  obtain ⟨t, ht, htop, hids, hedge⟩ := h.tree
  refine ⟨⟨t, ht.frame ?_, htop.trans hroot.symm, ?_, hedge⟩, h.inner⟩
  · intro n _
    rw [node?, hnodes, node?]
  · rw [hids, size, size, hnodes]

/-- The root of a document of one node is open. -/
theorem openAt_single (kind : NodeKind) (namespaces : List (String × String)) :
    ({ nodes := #[{ kind }], root := 0, namespaces } : Document).OpenAt [0] := by
  refine ⟨⟨.node 0 kind [], .node rfl (by simp), rfl, by simp [size], ?_⟩, by simp⟩
  intro p hp
  rw [List.mem_singleton.1 hp]
  exact .top _ _

end Document

end FormEngine
