import FormEngine.Proofs.Document.Forest
/-!
# A subtree that gives way to copies

An insertion point is unlinked from its parent, and copies of other subtrees take its place among
the parent's children. Nothing else moves: an old node keeps its kind, its parent and its children
unless it is the point or the parent, and what is new has the addresses from the old size on. The
arena stays grounded, which is to say that each of its nodes has a finite tree below it. Links that
go up are of no concern here, so an unlinked subtree may stay in the arena.
-/

namespace FormEngine

/-! ## The tree without the point and with the copies -/

namespace Tree

/-- The tree with the child `p` of the node `q` taken out and `us` put in from position `i` on. -/
def exchange (p q : NodeId) (i : Nat) (us : List Tree) : Tree → Tree
  | node n kind ts =>
    let others := (ts.map (exchange p q i us)).filter fun t => t.id != p
    node n kind (if n = q then others.take i ++ us ++ others.drop i else others)

variable {p q : NodeId} {i : Nat} {us : List Tree}

/-- The children that stay, each with the exchange made inside it. -/
def others (p q : NodeId) (i : Nat) (us ts : List Tree) : List Tree :=
  (ts.map (exchange p q i us)).filter fun t => t.id != p

theorem exchange_node (n : NodeId) (kind : NodeKind) (ts : List Tree) :
    exchange p q i us (node n kind ts) =
      node n kind (if n = q then (others p q i us ts).take i ++ us ++ (others p q i us ts).drop i
        else others p q i us ts) := by
  rw [exchange, others]

@[simp]
theorem id_exchange (t : Tree) : (exchange p q i us t).id = t.id := by
  cases t
  rw [exchange_node, id_node, id_node]

@[simp]
theorem kind_exchange (t : Tree) : (exchange p q i us t).kind = t.kind := by
  cases t
  rw [exchange_node, kind_node, kind_node]

theorem mem_others {ts : List Tree} {t : Tree} :
    t ∈ others p q i us ts ↔ ∃ s ∈ ts, s.id ≠ p ∧ exchange p q i us s = t := by
  simp only [others, List.mem_filter, List.mem_map, bne_iff_ne, ne_eq]
  constructor
  · rintro ⟨⟨s, hs, rfl⟩, hne⟩
    rw [id_exchange] at hne
    exact ⟨s, hs, hne, rfl⟩
  · rintro ⟨s, hs, hne, rfl⟩
    rw [id_exchange]
    exact ⟨⟨s, hs, rfl⟩, hne⟩

theorem map_id_others (ts : List Tree) :
    (others p q i us ts).map id = (ts.map id).filter fun n => n != p := by
  rw [others, List.filter_map, List.map_map, List.filter_map]
  have hid : id ∘ exchange p q i us = id := funext id_exchange
  have hne : (fun t : Tree => t.id != p) ∘ exchange p q i us = (fun n => n != p) ∘ id := by
    funext t
    show ((exchange p q i us t).id != p) = (t.id != p)
    rw [id_exchange]
  rw [hid, hne]

/-- The children after the exchange are old children or copies. -/
theorem mem_children_exchange {n : NodeId} {kind : NodeKind} {ts : List Tree} {t : Tree}
    (h : t ∈ (exchange p q i us (node n kind ts)).children) :
    (∃ s ∈ ts, s.id ≠ p ∧ exchange p q i us s = t) ∨ (n = q ∧ t ∈ us) := by
  rw [exchange_node, children_node] at h
  split at h
  · rename_i hn
    rw [List.mem_append, List.mem_append] at h
    rcases h with (h | h) | h
    · exact .inl (mem_others.1 (List.mem_of_mem_take h))
    · exact .inr ⟨hn, h⟩
    · exact .inl (mem_others.1 (List.mem_of_mem_drop h))
  · exact .inl (mem_others.1 h)

/-- A subtree after the exchange is an old one with the exchange made in it, or one of a copy. -/
theorem mem_subtrees_exchange {t s : Tree} (h : s ∈ (exchange p q i us t).subtrees) :
    (∃ r ∈ t.subtrees, exchange p q i us r = s) ∨ ∃ u ∈ us, s ∈ u.subtrees := by
  induction t generalizing s with
  | node n kind ts ih =>
    rcases mem_subtrees.1 h with rfl | ⟨c, hc, hs⟩
    · exact .inl ⟨_, self_mem_subtrees _, rfl⟩
    · rcases mem_children_exchange hc with ⟨r, hr, -, rfl⟩ | ⟨-, hu⟩
      · rcases ih r hr hs with ⟨v, hv, rfl⟩ | hcopy
        · exact .inl ⟨v, mem_subtrees_trans hv (child_mem_subtrees hr), rfl⟩
        · exact .inr hcopy
      · exact .inr ⟨c, hu, hs⟩

/-- The exchange makes a tree higher by at most the height of the copies. -/
theorem height_exchange_le {t : Tree} {h b : Nat} (ht : t.height ≤ h) (hus : ∀ u ∈ us, u.height ≤ b) :
    (exchange p q i us t).height ≤ h + b := by
  induction t generalizing h with
  | node n kind ts ih =>
    obtain _ | h := h
    · exact absurd ht (Nat.not_le.2 (height_pos _))
    have hbelow := height_node_le.1 ht
    have hnew : ∀ t ∈ (exchange p q i us (node n kind ts)).children, t.height ≤ h + b := by
      intro t hmem
      rcases mem_children_exchange hmem with ⟨s, hs, -, rfl⟩ | ⟨-, hu⟩
      · exact ih s hs (hbelow s hs)
      · exact Nat.le_trans (hus t hu) (Nat.le_add_left b h)
    rw [exchange_node] at hnew ⊢
    rw [Nat.add_right_comm, height_node_le]
    exact hnew

theorem TextIsLeaf.exchange {t : Tree} (h : t.TextIsLeaf) (hus : ∀ u ∈ us, u.TextIsLeaf)
    (hq : ∀ s ∈ t.subtrees, s.id = q → s.kind.isElement = true) :
    (exchange p q i us t).TextIsLeaf := by
  intro s hs hkind
  rcases mem_subtrees_exchange hs with ⟨r, hr, rfl⟩ | ⟨u, hu, hsu⟩
  · rw [kind_exchange] at hkind
    have hleaf := h r hr hkind
    cases r with
    | node n kind ts =>
      rw [children_node] at hleaf
      subst hleaf
      -- a text is not the parent of the point, so the exchange adds no child to it
      have hne : n ≠ q := by
        intro hn
        rw [hq _ hr hn] at hkind
        contradiction
      rw [exchange_node, if_neg hne]
      rfl
  · exact hus u hu s hsu hkind

end Tree

/-! ## Grounded arenas -/

/-- A node with further children from position `i` on. -/
def Node.insertChildren (node : Node) (i : Nat) (cs : List NodeId) : Node :=
  { node with children := node.children.take i ++ cs ++ node.children.drop i }

namespace Document

/-- Every node of the arena has a finite tree below it, no higher than the arena has nodes, with
texts at the leaves only. -/
def Grounded (d : Document) : Prop :=
  ∀ n < d.size, ∃ parent t, d.Holds parent t ∧ t.id = n ∧ t.height ≤ d.size ∧ t.TextIsLeaf

/-- In a tree with texts at the leaves the elements are the addresses of elements. -/
theorem Holds.mem_elements {d : Document} {parent : Option NodeId} {t : Tree} (h : d.Holds parent t)
    (hleaf : t.TextIsLeaf) {n : NodeId} : n ∈ t.elements ↔ n ∈ t.ids ∧ d.isElement n = true := by
  induction t generalizing parent with
  | node m kind ts ih =>
    have htop : d.isElement m = kind.isElement := h.isElement
    obtain ⟨htext, hbelow⟩ := Tree.textIsLeaf_node.1 hleaf
    rw [Tree.elements_node, Tree.ids_node, List.mem_cons, List.mem_flatMap]
    cases hkind : kind.isElement with
    | false =>
      rw [hkind] at htop
      rw [htext hkind]
      constructor
      · intro hn
        simp at hn
      · rintro ⟨rfl | ⟨t, ht, -⟩, hn⟩
        · rw [htop] at hn
          contradiction
        · simp at ht
    | true =>
      rw [hkind] at htop
      simp only [if_true, List.mem_cons, List.mem_flatMap]
      constructor
      · rintro (rfl | ⟨t, ht, hn⟩)
        · exact ⟨.inl rfl, htop⟩
        · have hmem := (ih t ht (h.child t ht) (hbelow t ht)).1 hn
          exact ⟨.inr ⟨t, ht, hmem.1⟩, hmem.2⟩
      · rintro ⟨rfl | ⟨t, ht, hn⟩, he⟩
        · exact .inl rfl
        · exact .inr ⟨t, ht, (ih t ht (h.child t ht) (hbelow t ht)).2 ⟨hn, he⟩⟩

/-- What passes the arena check is grounded. -/
theorem IsForest.grounded {d : Document} (h : d.IsForest) : d.Grounded := by
  intro n hn
  obtain ⟨p, t, ht, hid, -, hheight⟩ := h.exists_tree hn
  refine ⟨p, t, ht, hid, hheight, fun s hs hkind => ?_⟩
  obtain ⟨q, hq⟩ := ht.subtree hs
  have hleaf := h.text_leaf s.id (hq.isElement.trans hkind)
  rw [hq.children] at hleaf
  exact List.map_eq_nil_iff.1 hleaf

namespace Grounded

variable {d : Document}

/-- Nodes in range have trees below them. -/
theorem exists_trees (h : d.Grounded) {cs : List NodeId} (hcs : ∀ c ∈ cs, c < d.size) :
    ∃ ts : List Tree, ts.map Tree.id = cs ∧
      ∀ t ∈ ts, (∃ p, d.Holds p t) ∧ t.height ≤ d.size ∧ t.TextIsLeaf := by
  induction cs with
  | nil => exact ⟨[], rfl, by simp⟩
  | cons c cs ih =>
    obtain ⟨ts, hids, hts⟩ := ih fun c hc => hcs c (List.mem_cons_of_mem _ hc)
    obtain ⟨p, t, ht, rfl, hheight, hleaf⟩ := h c (hcs c List.mem_cons_self)
    refine ⟨t :: ts, by rw [List.map_cons, hids], ?_⟩
    rw [List.forall_mem_cons]
    exact ⟨⟨⟨p, ht⟩, hheight, hleaf⟩, hts⟩

theorem children_lt (h : d.Grounded) {n c : NodeId} (hc : c ∈ d.children n) : c < d.size := by
  obtain ⟨p, t, ht, rfl, -, -⟩ := h n (lt_size_of_mem_children hc)
  rw [ht.children, List.mem_map] at hc
  obtain ⟨s, hs, rfl⟩ := hc
  cases t
  exact (ht.child s hs).id_lt

theorem height_le (h : d.Grounded) {parent : Option NodeId} {t : Tree} (ht : d.Holds parent t) :
    t.height ≤ d.size := by
  obtain ⟨p, u, hu, hid, hheight, -⟩ := h t.id ht.id_lt
  obtain ⟨rfl, -⟩ := ht.unique hu hid.symm
  exact hheight

/-- Whoever has a child is an element. -/
theorem isElement_of_child (h : d.Grounded) {n c : NodeId} (hc : c ∈ d.children n) :
    d.isElement n = true := by
  obtain ⟨p, t, ht, rfl, -, hleaf⟩ := h n (lt_size_of_mem_children hc)
  rw [ht.isElement]
  by_contra htext
  rw [Bool.not_eq_true] at htext
  rw [ht.children, hleaf t t.self_mem_subtrees htext] at hc
  simp at hc

end Grounded

/-- The document `d'` is `d` with the trees `us` put among the children of `q` from position `i`
on. -/
structure Inserts (d d' : Document) (q : NodeId) (i : Nat) (us : List Tree) : Prop where
  root : d'.root = d.root
  namespaces : d'.namespaces = d.namespaces
  old : ∀ n < d.size,
    d'.node? n = (d.node? n).map fun node =>
      if n = q then node.insertChildren i (us.map Tree.id) else node
  holds : ∀ u ∈ us, d'.Holds (some q) u
  ids : us.flatMap Tree.ids = List.range' d.size (us.flatMap Tree.ids).length
  size : d'.size = d.size + (us.flatMap Tree.ids).length

/-! ## Unlinking -/

theorem node?_detach {d : Document} {p q : NodeId} (hp : d.parent? p = some q) (n : NodeId) :
    (d.detach p).node? n = (d.node? n).map fun node =>
      { node with
        parent := if n = p then none else node.parent
        children := if n = q then node.children.filter (· != p) else node.children } := by
  simp only [detach, hp, node?, Array.getElem?_modify]
  by_cases hnp : p = n
  · by_cases hnq : q = n
    · subst hnp
      subst hnq
      simp only [if_true, Option.map_map]
      rfl
    · simp only [hnp, hnq, Ne.symm hnq, if_true, if_false]
  · by_cases hnq : q = n
    · simp only [hnp, hnq, Ne.symm hnp, if_true, if_false]
    · simp only [hnp, hnq, Ne.symm hnp, Ne.symm hnq, if_false]
      cases d.nodes[n]? <;> rfl

theorem size_detach (d : Document) (p : NodeId) : (d.detach p).size = d.size := by
  unfold detach size
  cases d.parent? p <;> simp

theorem root_detach (d : Document) (p : NodeId) : (d.detach p).root = d.root := by
  unfold detach
  cases d.parent? p <;> rfl

/-! ## Putting in -/

theorem size_moveLastChild (d : Document) (q : NodeId) (i : Nat) :
    (d.moveLastChild q i).size = d.size := by
  simp [moveLastChild, size]

theorem insertIdx_eq_append {α : Type} {xs : List α} {i : Nat} (hi : i ≤ xs.length) (a : α) :
    xs.insertIdx i a = xs.take i ++ [a] ++ xs.drop i := by
  induction xs generalizing i with
  | nil =>
    obtain rfl : i = 0 := Nat.le_zero.1 hi
    rfl
  | cons x xs ih =>
    cases i with
    | zero => rfl
    | succ i =>
      rw [List.insertIdx_succ_cons, ih (Nat.le_of_succ_le_succ hi)]
      rfl

/-- Moving the last child touches the children of its parent only. -/
theorem node?_moveLastChild {d : Document} {q c : NodeId} {cs : List NodeId}
    (hchildren : d.children q = cs ++ [c]) (i : Nat) (n : NodeId) :
    (d.moveLastChild q i).node? n = (d.node? n).map fun node =>
      if n = q then { node with children := cs.insertIdx (min i cs.length) c } else node := by
  simp only [moveLastChild, node?, Array.getElem?_modify]
  by_cases hn : q = n
  · subst hn
    simp only [if_true]
    cases hnode : d.nodes[q]? with
    | none => rfl
    | some node =>
      have hcs : node.children = cs ++ [c] := by
        simpa [children, node?, hnode] using hchildren
      have hlast : (cs ++ [c]).getLast? = some c := by simp
      simp only [Option.map_some, hcs, hlast, List.dropLast_concat]
  · simp only [hn, Ne.symm hn, if_false, Option.map_id']

/-- A tree that the parent is not in is held as before. -/
theorem Holds.moveLastChild {d : Document} {q c : NodeId} {cs : List NodeId}
    (hchildren : d.children q = cs ++ [c]) (i : Nat) {parent : Option NodeId} {t : Tree}
    (h : d.Holds parent t) (hq : q ∉ t.ids) : (d.moveLastChild q i).Holds parent t := by
  refine h.frame ?_
  intro n hn
  have hne : n ≠ q := by
    rintro rfl
    exact hq hn
  rw [node?_moveLastChild hchildren i n]
  simp [hne]

/-- The grown tree is the last child of the node that it hangs from. -/
theorem Grafts.children_parent {d d' : Document} {p : NodeId} {t : Tree} (h : d.Grafts d' p t)
    (hp : p < d.size) : d'.children p = d.children p ++ [t.id] := by
  have hnode := h.old p hp
  cases hd : d.node? p with
  | none => exact absurd (Array.getElem?_eq_none_iff.1 hd) (Nat.not_le.2 hp)
  | some node =>
    rw [hd] at hnode
    simp [Document.children, hnode, hd, Node.addChild]

namespace Inserts

variable {d d' d'' : Document} {q : NodeId} {i : Nat} {us : List Tree} {t : Tree}

theorem refl (d : Document) (q : NodeId) (i : Nat) : d.Inserts d q i [] where
  root := rfl
  namespaces := rfl
  old n _ := by
    cases d.node? n with
    | none => rfl
    | some node => by_cases hn : n = q <;> simp [hn, Node.insertChildren]
  holds := by simp
  ids := rfl
  size := rfl

/-- The children of the parent. -/
theorem children (h : d.Inserts d' q i us) (hq : q < d.size) :
    d'.children q = (d.children q).take i ++ us.map Tree.id ++ (d.children q).drop i := by
  have hnode := h.old q hq
  cases hd : d.node? q with
  | none => exact absurd (Array.getElem?_eq_none_iff.1 hd) (Nat.not_le.2 hq)
  | some node =>
    rw [hd] at hnode
    simp [Document.children, hnode, hd, Node.insertChildren]

/-- One more tree is put in after the others: it is grafted as the last child and moved. -/
theorem concat (h : d.Inserts d' q i us) (hg : d'.Grafts d'' q t) (hq : q < d.size)
    (hi : i ≤ (d.children q).length) :
    d.Inserts (d''.moveLastChild q (i + us.length)) q i (us ++ [t]) := by
  have hq' : q < d'.size := by
    rw [h.size]
    exact Nat.lt_of_lt_of_le hq (Nat.le_add_right _ _)
  have hbefore : ((d.children q).take i ++ us.map Tree.id).length = i + us.length := by
    rw [List.length_append, List.length_take, List.length_map, Nat.min_eq_left hi]
  have hchildren := hg.children_parent hq'
  have hle : i + us.length ≤ (d'.children q).length := by
    rw [h.children hq, List.length_append, hbefore]
    exact Nat.le_add_right _ _
  have hplace : (d'.children q).insertIdx (min (i + us.length) (d'.children q).length) t.id =
      (d.children q).take i ++ us.map Tree.id ++ [t.id] ++ (d.children q).drop i := by
    rw [Nat.min_eq_left hle, insertIdx_eq_append hle, h.children hq, List.take_left' hbefore,
      List.drop_left' hbefore]
  have hmove := node?_moveLastChild hchildren (i + us.length)
  rw [hplace] at hmove
  have hframe : ∀ {parent u}, d''.Holds parent u → q ∉ u.ids →
      (d''.moveLastChild q (i + us.length)).Holds parent u := by
    intro parent u hu hnot
    exact hu.moveLastChild hchildren _ hnot
  refine ⟨?_, ?_, ?_, ?_, ?_, ?_⟩
  · exact hg.root.trans h.root
  · exact hg.namespaces.trans h.namespaces
  · intro n hn
    have hn' : n < d'.size := by
      rw [h.size]
      omega
    rw [hmove n, hg.old n hn', h.old n hn]
    cases hd : d.node? n with
    | none => rfl
    | some node =>
      by_cases hnq : n = q
      · subst hnq
        have hcs : d.children n = node.children := by simp [Document.children, hd]
        simp [Node.insertChildren, Node.addChild, hcs]
      · simp [hnq]
  · intro u hu
    rw [List.mem_append, List.mem_singleton] at hu
    rcases hu with hu | rfl
    · -- an older copy lies below the new addresses, so neither grafting nor moving reaches it
      have hnot : q ∉ u.ids := by
        intro hmem
        have hrange : q ∈ us.flatMap Tree.ids := List.mem_flatMap.2 ⟨u, hu, hmem⟩
        rw [h.ids, List.mem_range'_1] at hrange
        exact Nat.not_le.2 hq hrange.1
      have hgraft := hg.holds_graft (h.holds u hu)
      rw [Tree.graft_of_notMem t hnot] at hgraft
      exact hframe hgraft hnot
    · refine hframe hg.holds ?_
      intro hmem
      rw [hg.ids, List.mem_range'_1] at hmem
      exact Nat.not_le.2 hq' hmem.1
  · rw [List.flatMap_append, List.flatMap_singleton, List.length_append, ← List.range'_append_1,
      ← h.ids, ← h.size]
    exact congrArg _ hg.ids
  · rw [size_moveLastChild, hg.size, h.size, List.flatMap_append, List.flatMap_singleton,
      List.length_append, Nat.add_assoc]

end Inserts

/-! ## The exchange in an arena -/

section Exchange

variable {d d' : Document} {p q : NodeId} {i : Nat} {us : List Tree}

/-- What a node is after the point has been unlinked and the copies have been put in. -/
theorem node?_exchange (hp : d.parent? p = some q) (h : (d.detach p).Inserts d' q i us) {n : NodeId}
    (hn : n < d.size) :
    d'.node? n = (d.node? n).map fun node =>
      { node with
        parent := if n = p then none else node.parent
        children :=
          if n = q then
            (node.children.filter (· != p)).take i ++ us.map Tree.id ++
              (node.children.filter (· != p)).drop i
          else node.children } := by
  rw [h.old n (by rwa [size_detach]), node?_detach hp, Option.map_map]
  congr 1
  funext node
  by_cases hnq : n = q
  · subst hnq
    simp only [Function.comp_apply, if_true, Node.insertChildren]
  · simp only [Function.comp_apply, hnq, if_false]

/-- What was held before is held with the exchange made in it. -/
theorem holds_exchange (hp : d.parent? p = some q) (h : (d.detach p).Inserts d' q i us)
    {parent : Option NodeId} {t : Tree} (ht : d.Holds parent t) :
    d'.Holds (if t.id = p then none else parent) (t.exchange p q i us) := by
  induction t generalizing parent with
  | node n kind ts ih =>
    -- the point has one parent, so only below `q` is it taken out
    have hchild : ∀ s ∈ ts, s.id = p → n = q := by
      intro s hs hid
      have hparent := (ht.child s hs).parent?
      rw [hid, hp, Option.some.injEq] at hparent
      exact hparent.symm
    rw [Tree.exchange_node, Tree.id_node]
    refine .node ?_ ?_
    · have hn : n < d.size := ht.id_lt
      rw [node?_exchange hp h hn, ht.links, Option.map_some]
      by_cases hnq : n = q
      · subst hnq
        simp only [if_true, List.map_append, List.map_take, List.map_drop, Tree.map_id_others]
      · -- no child is the point, since the point is a child of its parent only
        have hall : (ts.map Tree.id).filter (fun c => c != p) = ts.map Tree.id := by
          refine List.filter_eq_self.2 fun c hc => ?_
          obtain ⟨s, hs, rfl⟩ := List.mem_map.1 hc
          rw [bne_iff_ne]
          exact fun hid => hnq (hchild s hs hid)
        simp only [hnq, if_false, Tree.map_id_others, hall]
    · intro s hs
      have hmem : s ∈ (Tree.exchange p q i us (.node n kind ts)).children := by
        rwa [Tree.exchange_node, Tree.children_node]
      rcases Tree.mem_children_exchange hmem with ⟨r, hr, hne, rfl⟩ | ⟨rfl, hu⟩
      · have hr' := ih r hr (ht.child r hr)
        rwa [if_neg hne] at hr'
      · exact h.holds s hu

/-- Nodes keep their kinds. -/
theorem kind?_exchange (hp : d.parent? p = some q) (h : (d.detach p).Inserts d' q i us) {n : NodeId}
    (hn : n < d.size) : d'.kind? n = d.kind? n := by
  rw [kind?, node?_exchange hp h hn, kind?, Option.map_map]
  rfl

theorem children_exchange (hp : d.parent? p = some q) (h : (d.detach p).Inserts d' q i us)
    {n : NodeId} (hn : n < d.size) (hne : n ≠ q) : d'.children n = d.children n := by
  rw [children, node?_exchange hp h hn, children, Option.map_map]
  simp only [hne, if_false]
  rfl

/-- The new addresses are those of the copies. -/
theorem mem_ids_copies_iff (h : (d.detach p).Inserts d' q i us) {n : NodeId} :
    n ∈ us.flatMap Tree.ids ↔ d.size ≤ n ∧ n < d'.size := by
  rw [h.ids, List.mem_range'_1, ← h.size, size_detach]

/-- Nothing below the bound `k` gets under a node above it when the point is below it. -/
theorem below_exchange (hp : d.parent? p = some q) (h : (d.detach p).Inserts d' q i us) {k : Nat}
    (hk : k ≤ d.size) (hq : q < k) (hbelow : ∀ n, k ≤ n → ∀ c ∈ d.children n, k ≤ c) :
    ∀ n, k ≤ n → ∀ c ∈ d'.children n, k ≤ c := by
  intro n hn c hc
  by_cases hold : n < d.size
  · rw [children_exchange hp h hold (Nat.ne_of_gt (Nat.lt_of_lt_of_le hq hn))] at hc
    exact hbelow n hn c hc
  · have hlt : n < d'.size := lt_size_of_mem_children hc
    have hmem := (mem_ids_copies_iff h).2 ⟨Nat.not_lt.1 hold, hlt⟩
    obtain ⟨u, hu, hnu⟩ := List.mem_flatMap.1 hmem
    obtain ⟨s, hs, rfl⟩ := Tree.exists_subtree_of_mem_ids hnu
    obtain ⟨r, hr⟩ := (h.holds u hu).subtree hs
    rw [hr.children, List.mem_map] at hc
    obtain ⟨v, hv, rfl⟩ := hc
    -- the child is in the same copy
    have hvs : v ∈ s.subtrees := Tree.mem_subtrees.2 (.inr ⟨v, hv, v.self_mem_subtrees⟩)
    have hvu : v.id ∈ us.flatMap Tree.ids := List.mem_flatMap.2
      ⟨u, hu, Tree.ids_subset_of_mem_subtrees (Tree.mem_subtrees_trans hvs hs) v.id_mem_ids⟩
    exact Nat.le_trans hk ((mem_ids_copies_iff h).1 hvu).1

/-- An element of the new arena is an old one or an element of a copy. -/
theorem isElement_exchange_iff (hp : d.parent? p = some q) (h : (d.detach p).Inserts d' q i us)
    (hleaf : ∀ u ∈ us, u.TextIsLeaf) {n : NodeId} :
    d'.isElement n = true ↔ d.isElement n = true ∨ n ∈ us.flatMap Tree.elements := by
  by_cases hold : n < d.size
  · have hnot : n ∉ us.flatMap Tree.elements := by
      intro hmem
      obtain ⟨u, hu, hnu⟩ := List.mem_flatMap.1 hmem
      have hids := List.mem_flatMap.2 ⟨u, hu, Tree.mem_ids_of_mem_elements hnu⟩
      exact absurd ((mem_ids_copies_iff h).1 hids).1 (Nat.not_le.2 hold)
    rw [isElement_eq, isElement_eq, kind?_exchange hp h hold]
    exact ⟨.inl, fun hor => hor.resolve_right hnot⟩
  · have hfalse : ¬d.isElement n = true := fun he => hold (lt_size_of_isElement he)
    constructor
    · intro helement
      have hmem := (mem_ids_copies_iff h).2 ⟨Nat.not_lt.1 hold, lt_size_of_isElement helement⟩
      obtain ⟨u, hu, hnu⟩ := List.mem_flatMap.1 hmem
      exact .inr (List.mem_flatMap.2
        ⟨u, hu, ((h.holds u hu).mem_elements (hleaf u hu)).2 ⟨hnu, helement⟩⟩)
    · rintro (helement | hmem)
      · exact absurd helement hfalse
      · obtain ⟨u, hu, hnu⟩ := List.mem_flatMap.1 hmem
        exact (((h.holds u hu).mem_elements (hleaf u hu)).1 hnu).2

/-- The arena stays grounded. -/
theorem Grounded.exchange (hd : d.Grounded) (hp : d.parent? p = some q) (hq : d.isElement q = true)
    (h : (d.detach p).Inserts d' q i us) (hleaf : ∀ u ∈ us, u.TextIsLeaf) : d'.Grounded := by
  have hsize : d'.size = d.size + (us.flatMap Tree.ids).length := by
    rw [h.size, size_detach]
  have hheight : ∀ u ∈ us, u.height ≤ (us.flatMap Tree.ids).length := fun u hu =>
    Nat.le_trans u.height_le_length_ids (Tree.sublist_ids_of_mem hu).length_le
  intro n hn
  -- an old node keeps its tree with the exchange made in it, a new one lies in a copy
  by_cases hold : n < d.size
  · obtain ⟨parent, t, ht, rfl, hle, htext⟩ := hd n hold
    refine ⟨_, _, holds_exchange hp h ht, t.id_exchange, ?_, ?_⟩
    · rw [hsize]
      exact Tree.height_exchange_le hle hheight
    · refine htext.exchange hleaf fun s hs hid => ?_
      obtain ⟨r, hr⟩ := ht.subtree hs
      rw [← hr.isElement, hid]
      exact hq
  · have hmem : n ∈ us.flatMap Tree.ids := by
      rw [h.ids, List.mem_range'_1, ← h.size, size_detach]
      exact ⟨Nat.not_lt.1 hold, hn⟩
    obtain ⟨u, hu, hnu⟩ := List.mem_flatMap.1 hmem
    obtain ⟨s, hs, rfl⟩ := Tree.exists_subtree_of_mem_ids hnu
    obtain ⟨parent, hparent⟩ := (h.holds u hu).subtree hs
    refine ⟨parent, s, hparent, rfl, ?_, fun r hr => hleaf u hu r (Tree.mem_subtrees_trans hr hs)⟩
    calc s.height ≤ u.height := Tree.height_le_of_mem_subtrees hs
      _ ≤ (us.flatMap Tree.ids).length := hheight u hu
      _ ≤ d'.size := by rw [hsize]; exact Nat.le_add_left _ _

end Exchange

end Document

end FormEngine
