import FormEngine.Proofs.Document.Insert
import FormEngine.Proofs.Document.Preorder
/-!
# What a copied subtree adds to a document

A subtree of one document is copied into another one below a given node. The nodes of the subtree come
over in document order, and the copies have the addresses from the old size on: where a node stands
among the nodes of its subtree says what the address of its copy is. A copy is of the same kind as its
original and linked to the copies of what the original is linked to. In the other document one list of
children changes, that of the node that the copy of the top hangs from.
-/

namespace FormEngine

/-- The elements of a list with no element twice, numbered by their places. -/
theorem map_idxOf_add {α : Type} [DecidableEq α] {xs : List α} (h : xs.Nodup) (k : Nat) :
    xs.map (fun x => k + xs.idxOf x) = List.range' k xs.length := by
  refine List.ext_getElem (by simp) ?_
  intro i hi hi'
  have hlt : i < xs.length := by simpa using hi
  simp [h.idxOf_getElem i hlt]

/-! ## Trees with other addresses -/

namespace Tree

/-- The tree with its addresses changed. -/
def relabel (f : NodeId → NodeId) : Tree → Tree
  | node n kind ts => node (f n) kind (ts.map (relabel f))

variable {f g : NodeId → NodeId} {t : Tree}

theorem relabel_node (f : NodeId → NodeId) (n : NodeId) (kind : NodeKind) (ts : List Tree) :
    (node n kind ts).relabel f = node (f n) kind (ts.map (relabel f)) := by
  rw [relabel]

@[simp]
theorem id_relabel (f : NodeId → NodeId) (t : Tree) : (t.relabel f).id = f t.id := by
  cases t
  rw [relabel_node, id_node, id_node]

theorem map_id_relabel (f : NodeId → NodeId) (ts : List Tree) :
    (ts.map (relabel f)).map id = (ts.map id).map f := by
  rw [List.map_map, List.map_map]
  exact List.map_congr_left fun t _ => id_relabel f t

/-- Only the addresses of the tree are changed. -/
theorem relabel_congr (h : ∀ n ∈ t.ids, f n = g n) : t.relabel f = t.relabel g := by
  induction t with
  | node n kind ts ih =>
    rw [ids_node, List.forall_mem_cons] at h
    have hbelow : ts.map (relabel f) = ts.map (relabel g) := by
      refine List.map_congr_left ?_
      intro t ht
      refine ih t ht ?_
      intro m hm
      exact h.2 m (List.mem_flatMap.2 ⟨t, ht, hm⟩)
    rw [relabel_node, relabel_node, h.1, hbelow]

/-- **Numbering anew gives each node its place in document order.** -/
theorem renumber_eq_relabel (hnodup : t.ids.Nodup) (k : Nat) :
    t.renumber k = t.relabel fun m => k + t.ids.idxOf m := by
  induction t generalizing k with
  | node n kind ts ih =>
    rw [ids_node, List.nodup_cons] at hnodup
    -- the trees below take their places one after the other
    have hall : ∀ k, (ts.flatMap ids).Nodup →
        renumberAll k ts = ts.map (relabel fun m => k + (ts.flatMap ids).idxOf m) := by
      clear k hnodup
      induction ts with
      | nil => intro k _; rfl
      | cons t ts ih' =>
        intro k hbelow
        rw [List.flatMap_cons, List.nodup_append] at hbelow
        have hfirst : t.renumber k = t.relabel fun m => k + ((t :: ts).flatMap ids).idxOf m := by
          rw [ih t List.mem_cons_self hbelow.1]
          refine relabel_congr ?_
          intro m hm
          rw [List.flatMap_cons, List.idxOf_append_of_mem hm]
        have hrest := ih' (fun u hu => ih u (List.mem_cons_of_mem t hu)) (k + t.ids.length) hbelow.2.1
        rw [renumberAll, List.map_cons, hfirst, hrest]
        refine congrArg _ (List.map_congr_left ?_)
        intro u hu
        refine relabel_congr ?_
        intro m hm
        have hmem : m ∈ ts.flatMap ids := List.mem_flatMap.2 ⟨u, hu, hm⟩
        have hnot : m ∉ t.ids := fun hmt => hbelow.2.2 m hmt m hmem rfl
        rw [List.flatMap_cons, List.idxOf_append_of_notMem hnot, Nat.add_assoc]
    rw [renumber, relabel_node, ids_node, List.idxOf_cons_self, Nat.add_zero, hall _ hnodup.2]
    refine congrArg _ (List.map_congr_left ?_)
    intro u hu
    refine relabel_congr ?_
    intro m hm
    have hne : m ≠ n := by
      rintro rfl
      exact hnodup.1 (List.mem_flatMap.2 ⟨u, hu, hm⟩)
    rw [List.idxOf_cons_ne _ (Ne.symm hne), Nat.succ_eq_add_one, Nat.add_assoc, Nat.add_comm 1]

end Tree

/-- The node with its links changed, below another parent if it is the top of a subtree. -/
def Node.relabel (f : NodeId → NodeId) (above : Option NodeId) (node : Node) : Node :=
  { kind := node.kind, parent := above.or (node.parent.map f), children := node.children.map f }

namespace Document

variable {source dest dest' : Document} {n p : NodeId} {cs : List NodeId} {t : Tree}

/-- Where a tree below a node is held with other addresses below the node of the same label, its nodes
are the same up to their links. -/
theorem Holds.node?_relabel_child {f : NodeId → NodeId} {q : NodeId} (h : source.Holds (some q) t)
    (h' : dest'.Holds (some (f q)) (t.relabel f)) :
    ∀ m ∈ t.ids, dest'.node? (f m) = (source.node? m).map (Node.relabel f none) := by
  induction t generalizing q with
  | node n kind ts ih =>
    rw [Tree.relabel_node] at h'
    intro m hm
    rw [Tree.ids_node, List.mem_cons, List.mem_flatMap] at hm
    rcases hm with rfl | ⟨t, ht, hm⟩
    · rw [h'.links, h.links, Tree.map_id_relabel]
      rfl
    · exact ih t ht (h.child t ht) (h'.child _ (List.mem_map_of_mem ht)) m hm

/-- Below another node the top of the tree has another parent. -/
theorem Holds.node?_relabel {f : NodeId → NodeId} {q : Option NodeId} (h : source.Holds q t)
    (hnodup : t.ids.Nodup) (h' : dest'.Holds (some p) (t.relabel f)) :
    ∀ m ∈ t.ids, dest'.node? (f m) =
      (source.node? m).map (Node.relabel f (if m = t.id then some p else none)) := by
  obtain ⟨n, kind, ts⟩ := t
  rw [Tree.ids_node, List.nodup_cons] at hnodup
  rw [Tree.relabel_node] at h'
  intro m hm
  rw [Tree.ids_node, List.mem_cons, List.mem_flatMap] at hm
  rcases hm with rfl | ⟨t, ht, hm⟩
  · rw [h'.links, h.links, Tree.map_id_relabel, Tree.id_node, if_pos rfl]
    rfl
  · have hne : m ≠ n := by
      rintro rfl
      exact hnodup.1 (List.mem_flatMap.2 ⟨t, ht, hm⟩)
    rw [Tree.id_node, if_neg hne]
    exact (h.child t ht).node?_relabel_child (h'.child _ (List.mem_map_of_mem ht)) m hm

/-! ## Subtrees in other documents -/

/-- The address of the copy of a node when its subtree is copied to the addresses from `k` on. -/
def copyAddress (source : Document) (n : NodeId) (k : Nat) (m : NodeId) : NodeId :=
  k + (source.subtreeNodes n).idxOf m

/-- **The document `dest'` is `dest` with a copy of the subtree of `source` at `n` under `p`**, which
has the children `cs` then. It has a copy of each node of the subtree, of the same kind and with the
copies of its children in the same order, and the copies have the addresses from the old size on in
document order. All other nodes are as they were. -/
structure Receives (source dest dest' : Document) (n p : NodeId) (cs : List NodeId) : Prop where
  root : dest'.root = dest.root
  namespaces : dest'.namespaces = dest.namespaces
  size : dest'.size = dest.size + (source.subtreeNodes n).length
  numbered : (source.subtreeNodes n).map (source.copyAddress n dest.size) =
    List.range' dest.size (source.subtreeNodes n).length
  order : dest'.subtreeNodes dest.size = List.range' dest.size (source.subtreeNodes n).length
  copies : ∀ m ∈ source.subtreeNodes n, dest'.node? (source.copyAddress n dest.size m) =
    (source.node? m).map
      (Node.relabel (source.copyAddress n dest.size) (if m = n then some p else none))
  parent : dest'.node? p = (dest.node? p).map fun node => { node with children := cs }
  frame : ∀ m < dest.size, m ≠ p → dest'.node? m = dest.node? m

/-- What is left to see when the copy is held where it should be. -/
theorem Holds.receives {q : Option NodeId} (h : source.Holds q t) (hnodup : t.ids.Nodup)
    (hcopy : dest'.Holds (some p) (t.renumber dest.size)) (hroot : dest'.root = dest.root)
    (hnamespaces : dest'.namespaces = dest.namespaces) (hsize : dest'.size = dest.size + t.ids.length)
    (hparent : dest'.node? p = (dest.node? p).map fun node => { node with children := cs })
    (hframe : ∀ m < dest.size, m ≠ p → dest'.node? m = dest.node? m) :
    source.Receives dest dest' t.id p cs := by
  have hnodes : source.subtreeNodes t.id = t.ids := h.subtreeNodes hnodup
  have hlabels : source.copyAddress t.id dest.size = fun m => dest.size + t.ids.idxOf m := by
    funext m
    rw [copyAddress, hnodes]
  refine ⟨hroot, hnamespaces, ?_, ?_, ?_, ?_, hparent, hframe⟩
  · rw [hnodes, hsize]
  · rw [hlabels, hnodes, map_idxOf_add hnodup]
  · have hids := Tree.ids_renumber t dest.size
    have hwalk := hcopy.subtreeNodes (by rw [hids]; exact List.nodup_range')
    rw [Tree.id_renumber] at hwalk
    rw [hwalk, hids, hnodes]
  · rw [hlabels, hnodes]
    rw [Tree.renumber_eq_relabel hnodup] at hcopy
    exact h.node?_relabel hnodup hcopy

/-- **A copy, and a copy put in at a position, add exactly the subtree.** Under the node that it is
copied to the copy comes last, or at the position asked for, or last if there are fewer children. -/
theorem receives_copySubtree (hsource : source.check = .ok ()) (hn : n < source.size)
    (hp : p < dest.size) (index : Nat) :
    source.Receives dest (source.copySubtree n dest p) n p (dest.children p ++ [dest.size]) ∧
      source.Receives dest (source.insertSubtree n dest p index) n p
        ((dest.children p).insertIdx (min index (dest.children p).length) dest.size) := by
  obtain ⟨q, t, ht, rfl, hnodup, hheight⟩ := (check_eq_ok_iff.1 hsource).exists_tree hn
  have hgrafts : dest.Grafts (source.copySubtree t.id dest p) p (t.renumber dest.size) :=
    grafts_copyWithin ht hheight dest p hp
  have hsize : (source.copySubtree t.id dest p).size = dest.size + t.ids.length := by
    rw [hgrafts.size, Tree.length_ids_renumber]
  have hchildren : (source.copySubtree t.id dest p).children p = dest.children p ++ [dest.size] := by
    rw [hgrafts.children_parent hp, Tree.id_renumber]
  have hparent : (source.copySubtree t.id dest p).node? p = (dest.node? p).map fun node =>
      { node with children := dest.children p ++ [dest.size] } := by
    rw [hgrafts.old p hp, Tree.id_renumber]
    cases hnode : dest.node? p with
    | none => rfl
    | some node => simp [Node.addChild, Document.children, hnode]
  refine ⟨?_, ?_⟩
  · refine ht.receives hnodup hgrafts.holds hgrafts.root hgrafts.namespaces hsize hparent ?_
    intro m hm hne
    exact hgrafts.old_ne hm hne
  · have hmove := node?_moveLastChild hchildren index
    have hnot : p ∉ (t.renumber dest.size).ids := by
      rw [Tree.ids_renumber, List.mem_range'_1]
      rintro ⟨hle, -⟩
      exact Nat.not_le.2 hp hle
    refine ht.receives hnodup (hgrafts.holds.moveLastChild hchildren index hnot) hgrafts.root
      hgrafts.namespaces ?_ ?_ ?_
    · rw [insertSubtree, size_moveLastChild, hsize]
    · rw [insertSubtree, hmove p, hparent, Option.map_map]
      simp [Function.comp_def]
    · intro m hm hne
      rw [insertSubtree, hmove m, hgrafts.old_ne hm hne]
      simp [hne]

/-- An element with a text and an element below it. -/
def branch : Document :=
  { nodes :=
      #[{ kind := .element (.plain "list") [], children := [2, 1] },
        { kind := .element (.plain "item") [], parent := some 0 },
        { kind := .text "first", parent := some 0 }]
    root := 0 }

/-- The copy of the top is put in before the two children that are there. -/
theorem receives_copySubtree_branch : branch.check = .ok () ∧ branch.root < branch.size ∧
    branch.Receives branch (branch.copySubtree 0 branch 0) 0 0 [2, 1, 3] ∧
    branch.Receives branch (branch.insertSubtree 0 branch 0 0) 0 0 [3, 2, 1] := by
  have hcheck : branch.check = .ok () := by decide
  have hroot : branch.root < branch.size := by decide
  exact ⟨hcheck, hroot, receives_copySubtree hcheck hroot hroot 0⟩

end Document

end FormEngine
