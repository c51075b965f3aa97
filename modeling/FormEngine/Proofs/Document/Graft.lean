import FormEngine.Document.Copy
import FormEngine.Proofs.Document.Tree
/-!
# Growing a document

An arena grows at its end: a new node, or a copied subtree, gets the addresses from the old size
on, and of the old nodes only the one it hangs from changes, by one child at the end of its list.
`d.Grafts d' p t` says that `d'` is `d` grown in this way by the tree `t` under the node `p`. A
copied subtree is the subtree it was copied from with its nodes numbered anew.
-/

namespace FormEngine

namespace Tree

/-! ## Numbering anew -/

mutual

/-- The tree with consecutive addresses from `k` on, in document order. -/
def renumber (k : Nat) : Tree → Tree
  | node _ kind ts => node k kind (renumberAll (k + 1) ts)

@[inherit_doc Tree.renumber]
def renumberAll (k : Nat) : List Tree → List Tree
  | [] => []
  | t :: ts => renumber k t :: renumberAll (k + t.ids.length) ts

end

/-- Addresses after a renumbering are consecutive. -/
theorem ids_renumber (t : Tree) (k : Nat) : (t.renumber k).ids = List.range' k t.ids.length := by
  induction t generalizing k with
  | node n kind ts ih =>
    have hall : ∀ k, (renumberAll k ts).flatMap ids = List.range' k (ts.flatMap ids).length := by
      clear k
      induction ts with
      | nil => intro k; rfl
      | cons t ts ih' =>
        intro k
        rw [renumberAll, List.flatMap_cons, List.flatMap_cons, ih t List.mem_cons_self,
          ih' (fun u hu => ih u (List.mem_cons_of_mem t hu)), List.length_append,
          List.range'_append_1]
    rw [renumber, ids_node, ids_node, hall, List.length_cons, List.range'_succ]

@[simp]
theorem length_ids_renumber (t : Tree) (k : Nat) : (t.renumber k).ids.length = t.ids.length := by
  rw [ids_renumber, List.length_range']

@[simp]
theorem id_renumber (t : Tree) (k : Nat) : (t.renumber k).id = k := by
  cases t
  rfl

@[simp]
theorem kind_renumber (t : Tree) (k : Nat) : (t.renumber k).kind = t.kind := by
  cases t
  rfl

/-- What is made of the kind and of what the children give has nothing to do with addresses. -/
theorem eq_renumber {α : Type} {f : Tree → α} {g : NodeKind → List α → α}
    (hf : ∀ n kind ts, f (node n kind ts) = g kind (ts.map f)) (t : Tree) (k : Nat) :
    f (t.renumber k) = f t := by
  induction t generalizing k with
  | node n kind ts ih =>
    have hall : ∀ k, (renumberAll k ts).map f = ts.map f := by
      clear k
      induction ts with
      | nil => exact fun _ => rfl
      | cons t ts ih' =>
        intro k
        rw [renumberAll, List.map_cons, List.map_cons, ih t List.mem_cons_self,
          ih' fun u hu => ih u (List.mem_cons_of_mem t hu)]
    rw [renumber, hf, hf, hall]

theorem height_renumber (t : Tree) (k : Nat) : (t.renumber k).height = t.height :=
  eq_renumber (g := fun _ heights => heights.foldr max 0 + 1) (fun _ _ _ => by rw [height]) t k

theorem mem_renumberAll {ts : List Tree} {k : Nat} {u : Tree} (h : u ∈ renumberAll k ts) :
    ∃ t ∈ ts, ∃ j, k ≤ j ∧ u = t.renumber j := by
  induction ts generalizing k with
  | nil => simp [renumberAll] at h
  | cons t ts ih =>
    rw [renumberAll, List.mem_cons] at h
    rcases h with rfl | h
    · exact ⟨t, List.mem_cons_self, k, Nat.le_refl k, rfl⟩
    · obtain ⟨s, hs, j, hj, rfl⟩ := ih h
      exact ⟨s, List.mem_cons_of_mem t hs, j, Nat.le_trans (Nat.le_add_right _ _) hj, rfl⟩

/-! ## Leaves -/

/-- Every text of the tree is a leaf. -/
def TextIsLeaf (t : Tree) : Prop := ∀ s ∈ t.subtrees, s.kind.isElement = false → s.children = []

theorem textIsLeaf_node {n : NodeId} {kind : NodeKind} {ts : List Tree} :
    (node n kind ts).TextIsLeaf ↔
      (kind.isElement = false → ts = []) ∧ ∀ t ∈ ts, t.TextIsLeaf := by
  constructor
  · intro h
    refine ⟨h _ (self_mem_subtrees _), fun t ht s hs => h s ?_⟩
    exact mem_subtrees_trans hs (child_mem_subtrees ht)
  · rintro ⟨htop, hbelow⟩ s hs
    rw [subtrees_node, List.mem_cons, List.mem_flatMap] at hs
    rcases hs with rfl | ⟨t, ht, hs⟩
    · exact htop
    · exact hbelow t ht s hs

theorem TextIsLeaf.renumber {t : Tree} (h : t.TextIsLeaf) (k : Nat) : (t.renumber k).TextIsLeaf := by
  induction t generalizing k with
  | node n kind ts ih =>
    rw [textIsLeaf_node] at h
    have hall : ∀ k, ∀ u ∈ renumberAll k ts, u.TextIsLeaf := by
      obtain ⟨-, h⟩ := h
      clear k
      induction ts with
      | nil => intro k u hu; simp [renumberAll] at hu
      | cons t ts ih' =>
        intro k u hu
        rw [renumberAll, List.mem_cons] at hu
        rcases hu with rfl | hu
        · exact ih t List.mem_cons_self (h t List.mem_cons_self) k
        · exact ih' (fun u hu => ih u (List.mem_cons_of_mem t hu))
            (fun u hu => h u (List.mem_cons_of_mem t hu)) _ u hu
    rw [Tree.renumber, textIsLeaf_node]
    refine ⟨fun hkind => ?_, hall _⟩
    rw [h.1 hkind]
    rfl

/-! ## Grafting -/

/-- The tree with one more child under the node `p`. -/
def graft (p : NodeId) (t : Tree) : Tree → Tree
  | node n kind ts => node n kind (ts.map (graft p t) ++ if n = p then [t] else [])

theorem graft_node (p : NodeId) (t : Tree) (n : NodeId) (kind : NodeKind) (ts : List Tree) :
    graft p t (node n kind ts) =
      node n kind (ts.map (graft p t) ++ if n = p then [t] else []) := by
  rw [graft]

@[simp]
theorem id_graft (p : NodeId) (t u : Tree) : (graft p t u).id = u.id := by
  cases u
  rw [graft_node, id_node, id_node]

/-- A tree without the node stays as it is. -/
theorem graft_of_notMem {p : NodeId} (t : Tree) {u : Tree} (h : p ∉ u.ids) : graft p t u = u := by
  induction u with
  | node n kind ts ih =>
    rw [ids_node, List.mem_cons, not_or, List.mem_flatMap] at h
    obtain ⟨hne, hbelow⟩ := h
    have hmap : ts.map (graft p t) = ts := by
      refine (List.map_congr_left fun u hu => ?_).trans (List.map_id' ts)
      exact ih u hu fun hp => hbelow ⟨u, hu, hp⟩
    rw [graft_node, hmap, if_neg (Ne.symm hne), List.append_nil]

/-- Trees without the node stay as they are. -/
theorem map_graft_of_notMem {p : NodeId} (t : Tree) {us : List Tree} (h : p ∉ us.flatMap ids) :
    us.map (graft p t) = us := by
  refine (List.map_congr_left fun u hu => ?_).trans (List.map_id' us)
  exact graft_of_notMem t fun hp => h (List.mem_flatMap.2 ⟨u, hu, hp⟩)

/-- At the top a tree is grafted after the others, and nowhere else if the address is not met again. -/
theorem graft_top {p : NodeId} {kind : NodeKind} {us : List Tree} (t : Tree)
    (h : p ∉ us.flatMap ids) : graft p t (node p kind us) = node p kind (us ++ [t]) := by
  rw [graft_node, map_graft_of_notMem t h, if_pos rfl]

end Tree

/-! ## Grown documents -/

/-- A node with one more child. -/
def Node.addChild (node : Node) (c : NodeId) : Node := { node with children := node.children ++ [c] }

namespace Document

/-- The document `d'` is `d` with the tree `t` added as the last child of `p`. -/
structure Grafts (d d' : Document) (p : NodeId) (t : Tree) : Prop where
  root : d'.root = d.root
  namespaces : d'.namespaces = d.namespaces
  old : ∀ n < d.size,
    d'.node? n = (d.node? n).map fun node => if n = p then node.addChild t.id else node
  holds : d'.Holds (some p) t
  ids : t.ids = List.range' d.size t.ids.length
  size : d'.size = d.size + t.ids.length

theorem node?_append (d : Document) (p : NodeId) (kind : NodeKind) (n : NodeId) :
    (d.append p kind).node? n =
      (if n = d.size then some { kind, parent := some p } else d.node? n).map fun node =>
        if n = p then node.addChild d.size else node := by
  simp only [append, node?, Array.getElem?_modify, Array.getElem?_push, size]
  by_cases hp : p = n
  · subst hp
    rw [if_pos rfl]
    simp only [if_true]
    rfl
  · rw [if_neg hp]
    simp only [Ne.symm hp, if_false, Option.map_id']
    rfl

theorem size_append (d : Document) (p : NodeId) (kind : NodeKind) :
    (d.append p kind).size = d.size + 1 := by
  simp [append, size]

/-- A new node is a tree of one node. -/
theorem grafts_append {d : Document} {p : NodeId} (hp : p < d.size) (kind : NodeKind) :
    d.Grafts (d.append p kind) p (.node d.size kind []) where
  root := rfl
  namespaces := rfl
  old n hn := by rw [node?_append, if_neg (Nat.ne_of_lt hn), Tree.id_node]
  holds := by
    refine .node ?_ (by simp)
    rw [node?_append, if_pos rfl, Option.map_some, if_neg (Nat.ne_of_gt hp)]
    rfl
  ids := by simp
  size := by rw [size_append]; simp

namespace Grafts

variable {d d' d'' : Document} {p : NodeId} {t u : Tree}

theorem id_eq (h : d.Grafts d' p t) : t.id = d.size := by
  cases t with
  | node n kind ts =>
    have hids := h.ids
    rw [Tree.ids_node, List.length_cons, List.range'_succ, List.cons.injEq] at hids
    exact hids.1

theorem size_lt (h : d.Grafts d' p t) : d.size < d'.size := by
  have hpos : 0 < t.ids.length := List.length_pos_of_mem t.id_mem_ids
  rw [h.size]
  omega

/-- Nodes of the old document other than the one the tree hangs from are the same. -/
theorem old_ne (h : d.Grafts d' p t) {n : NodeId} (hn : n < d.size) (hne : n ≠ p) :
    d'.node? n = d.node? n := by
  rw [h.old n hn]
  simp [hne]

/-- What the old document holds, the new one holds with the tree grafted. -/
theorem holds_graft (h : d.Grafts d' p t) {parent : Option NodeId} (hu : d.Holds parent u) :
    d'.Holds parent (Tree.graft p t u) := by
  induction u generalizing parent with
  | node n kind ts ih =>
    rw [Tree.graft_node]
    have hn : n < d.size := hu.id_lt
    have hids : (ts.map (Tree.graft p t)).map Tree.id = ts.map Tree.id := by simp
    refine .node ?_ fun v hv => ?_
    · rw [h.old n hn, hu.links, Option.map_some, List.map_append, hids]
      by_cases hnp : n = p
      · simp [hnp, Node.addChild]
      · simp [hnp]
    · rw [List.mem_append, List.mem_map] at hv
      rcases hv with ⟨w, hw, rfl⟩ | hv
      · exact ih w hw (hu.child w hw)
      · by_cases hnp : n = p
        · rw [if_pos hnp, List.mem_singleton] at hv
          rw [hv, hnp]
          exact h.holds
        · rw [if_neg hnp] at hv
          contradiction

/-- Growing under the top of what has just grown. -/
theorem extend {n : NodeId} {kind : NodeKind} {ts : List Tree}
    (h : d.Grafts d' p (.node n kind ts)) (h' : d'.Grafts d'' n u) :
    d.Grafts d'' p (.node n kind (ts ++ [u])) where
  root := h'.root.trans h.root
  namespaces := h'.namespaces.trans h.namespaces
  old m hm := by
    have hid : n = d.size := h.id_eq
    have hne : m ≠ n := by
      rw [hid]
      exact Nat.ne_of_lt hm
    rw [h'.old_ne (Nat.lt_trans hm h.size_lt) hne, h.old m hm]
    rfl
  holds := by
    have hgraft := h'.holds_graft h.holds
    have hid : n = d.size := h.id_eq
    have hids := h.ids
    rw [Tree.ids_node, List.length_cons, List.range'_succ, List.cons.injEq] at hids
    -- the addresses below `n` are all above it, so grafting under `n` changes the top only
    have hbelow : n ∉ ts.flatMap Tree.ids := by
      intro hmem
      rw [hids.2, hid, List.mem_range'_1] at hmem
      omega
    rwa [Tree.graft_top u hbelow] at hgraft
  ids := by
    have hids := h.ids
    have hsize := h.size
    have hids' := h'.ids
    simp only [Tree.ids_node, List.length_cons, List.range'_succ, List.cons.injEq,
      List.flatMap_append, List.flatMap_cons, List.flatMap_nil, List.append_nil,
      List.length_append] at hids hsize ⊢
    refine ⟨hids.1, ?_⟩
    rw [hids.2, hids', hsize, List.length_range', List.length_range', ← List.range'_append_1]
    congr 2
    omega
  size := by
    rw [h'.size, h.size]
    simp only [Tree.ids_node, List.length_cons, List.flatMap_append, List.flatMap_cons,
      List.flatMap_nil, List.append_nil, List.length_append]
    omega

end Grafts

/-! ## Copies -/

/-- Children copied one after the other under the top of what has grown so far. -/
theorem grafts_copyChildren {source dest : Document} {fuel : Nat} {p : NodeId} {kind : NodeKind}
    {us : List Tree}
    (hcopy : ∀ u ∈ us, ∀ (d : Document) (q : NodeId), q < d.size →
      d.Grafts (source.copyWithin fuel u.id d q) q (u.renumber d.size))
    {vs : List Tree} {d : Document} (h : dest.Grafts d p (.node dest.size kind vs)) :
    dest.Grafts ((us.map Tree.id).foldl (fun d c => source.copyWithin fuel c d dest.size) d) p
      (.node dest.size kind (vs ++ Tree.renumberAll d.size us)) := by
  induction us generalizing vs d with
  | nil => rwa [Tree.renumberAll, List.append_nil]
  | cons u us ih =>
    have hstep := hcopy u List.mem_cons_self d dest.size h.size_lt
    have hnext := ih (fun v hv => hcopy v (List.mem_cons_of_mem u hv)) (h.extend hstep)
    rw [List.map_cons, List.foldl_cons, Tree.renumberAll]
    rwa [hstep.size, Tree.length_ids_renumber, List.append_assoc, List.singleton_append] at hnext

/-- Copying reads nothing but the held tree. -/
theorem copyWithin_congr {source source' : Document} {q q' : Option NodeId} {t : Tree}
    (h : source.Holds q t) (h' : source'.Holds q' t) {fuel fuel' : Nat} (hfuel : t.height ≤ fuel)
    (hfuel' : t.height ≤ fuel') (dest : Document) (p : NodeId) :
    source'.copyWithin fuel' t.id dest p = source.copyWithin fuel t.id dest p := by
  induction t generalizing q q' fuel fuel' dest p with
  | node n kind ts ih =>
    obtain _ | fuel := fuel
    · exact absurd hfuel (Nat.not_le.2 (Tree.height_pos _))
    obtain _ | fuel' := fuel'
    · exact absurd hfuel' (Nat.not_le.2 (Tree.height_pos _))
    rw [Tree.id_node, copyWithin, copyWithin, h.links, h'.links]
    -- the destinations may differ from child to child, the two copies of a child may not
    refine List.foldl_ext _ _ _ fun d c hc => ?_
    obtain ⟨t, ht, rfl⟩ := List.mem_map.1 hc
    exact ih t ht (h.child t ht) (h'.child t ht) (Tree.height_node_le.1 hfuel t ht)
      (Tree.height_node_le.1 hfuel' t ht) d dest.size

/-- **A copy is the original numbered anew**: with fuel for the height of the held tree, copying
it grows the destination by the same tree with addresses from the old size on. -/
theorem grafts_copyWithin {source : Document} {q : Option NodeId} {t : Tree}
    (h : source.Holds q t) {fuel : Nat} (hfuel : t.height ≤ fuel) (dest : Document) (p : NodeId)
    (hp : p < dest.size) :
    dest.Grafts (source.copyWithin fuel t.id dest p) p (t.renumber dest.size) := by
  induction t generalizing q fuel dest p with
  | node n kind ts ih =>
    cases fuel with
    | zero => exact absurd hfuel (Nat.not_le.2 (Tree.height_pos _))
    | succ fuel =>
      have hcopy : ∀ u ∈ ts, ∀ (d : Document) (q : NodeId), q < d.size →
          d.Grafts (source.copyWithin fuel u.id d q) q (u.renumber d.size) := fun u hu d q hq =>
        ih u hu (h.child u hu) (Tree.height_node_le.1 hfuel u hu) d q hq
      have hchildren := grafts_copyChildren hcopy (grafts_append hp kind)
      rw [size_append, List.nil_append] at hchildren
      rw [Tree.id_node, copyWithin, h.links, Tree.renumber]
      exact hchildren

end Document

end FormEngine
