import FormEngine.Document.Walk
import Mathlib.Data.List.Basic
/-!
# Subtrees of a document

A subtree of an arena as a tree of its own: each node with its address, its kind and the trees
of its children. `d.Holds parent t` says that the arena `d` has exactly the nodes of `t` at the
addresses of `t`, linked as `t` links them, the topmost one with the given parent. A walk with
fuel for the height of a held tree is a recursion over that tree, so it does not depend on the
fuel, nor on anything in the arena outside of the tree.
-/

namespace FormEngine

/-- A subtree with the address of every node. -/
inductive Tree where
  | node (id : NodeId) (kind : NodeKind) (children : List Tree)

namespace Tree

/-- Facts about trees go from the children to the parent. -/
@[elab_as_elim, induction_eliminator]
theorem induction {P : Tree → Prop}
    (node : ∀ n kind ts, (∀ t ∈ ts, P t) → P (.node n kind ts)) : ∀ t, P t
  | .node n kind ts => node n kind ts fun t _ => induction node t

/-- The address of the topmost node. -/
def id : Tree → NodeId
  | node n _ _ => n

def kind : Tree → NodeKind
  | node _ kind _ => kind

def children : Tree → List Tree
  | node _ _ ts => ts

@[simp] theorem id_node (n : NodeId) (kind : NodeKind) (ts : List Tree) : (node n kind ts).id = n := rfl

@[simp] theorem kind_node (n : NodeId) (kind : NodeKind) (ts : List Tree) :
    (node n kind ts).kind = kind := rfl

@[simp] theorem children_node (n : NodeId) (kind : NodeKind) (ts : List Tree) :
    (node n kind ts).children = ts := rfl

/-- All addresses, in document order. -/
def ids : Tree → List NodeId
  | node n _ ts => n :: ts.flatMap ids

/-- The addresses of the elements, in document order. Nothing under a text counts. -/
def elements : Tree → List NodeId
  | node n kind ts => if kind.isElement then n :: ts.flatMap elements else []

/-- The number of nodes on the longest branch. -/
def height : Tree → Nat
  | node _ _ ts => (ts.map height).foldr max 0 + 1

/-- The tree and all trees in it, in document order. -/
def subtrees : Tree → List Tree
  | node n kind ts => node n kind ts :: ts.flatMap subtrees

@[simp] theorem ids_node (n : NodeId) (kind : NodeKind) (ts : List Tree) :
    (node n kind ts).ids = n :: ts.flatMap ids := by rw [ids]

theorem elements_node (n : NodeId) (kind : NodeKind) (ts : List Tree) :
    (node n kind ts).elements = if kind.isElement then n :: ts.flatMap elements else [] := by
  rw [elements]

@[simp] theorem subtrees_node (n : NodeId) (kind : NodeKind) (ts : List Tree) :
    (node n kind ts).subtrees = node n kind ts :: ts.flatMap subtrees := by rw [subtrees]

theorem id_mem_ids (t : Tree) : t.id ∈ t.ids := by
  cases t
  simp

theorem self_mem_subtrees (t : Tree) : t ∈ t.subtrees := by
  cases t
  simp

theorem mem_subtrees {s t : Tree} :
    s ∈ t.subtrees ↔ s = t ∨ ∃ c ∈ t.children, s ∈ c.subtrees := by
  cases t
  rw [subtrees_node, List.mem_cons, List.mem_flatMap, children_node]

/-- Addresses are the addresses of the subtrees. -/
theorem map_id_subtrees (t : Tree) : t.subtrees.map id = t.ids := by
  induction t with
  | node n kind ts ih =>
    rw [subtrees_node, ids_node, List.map_cons, id_node, List.map_flatMap]
    exact congrArg (n :: ·) (List.flatMap_congr ih)

theorem exists_subtree_of_mem_ids {t : Tree} {n : NodeId} (h : n ∈ t.ids) :
    ∃ s ∈ t.subtrees, s.id = n := by
  rw [← map_id_subtrees, List.mem_map] at h
  exact h

theorem mem_ids_of_mem_elements {t : Tree} {n : NodeId} (h : n ∈ t.elements) : n ∈ t.ids := by
  induction t with
  | node m kind ts ih =>
    rw [elements_node] at h
    split at h
    · rw [List.mem_cons, List.mem_flatMap] at h
      rw [ids_node, List.mem_cons, List.mem_flatMap]
      exact h.imp_right fun ⟨t, ht, hn⟩ => ⟨t, ht, ih t ht hn⟩
    · simp at h

theorem mem_subtrees_trans {r s t : Tree} (hrs : r ∈ s.subtrees) (hst : s ∈ t.subtrees) :
    r ∈ t.subtrees := by
  induction t with
  | node n kind ts ih =>
    rw [subtrees_node, List.mem_cons, List.mem_flatMap] at hst
    rcases hst with rfl | ⟨t, ht, hst⟩
    · exact hrs
    · rw [subtrees_node, List.mem_cons, List.mem_flatMap]
      exact .inr ⟨t, ht, ih t ht hst⟩

theorem child_mem_subtrees {n : NodeId} {kind : NodeKind} {ts : List Tree} {t : Tree} (h : t ∈ ts) :
    t ∈ (node n kind ts).subtrees := by
  rw [subtrees_node, List.mem_cons, List.mem_flatMap]
  exact .inr ⟨t, h, t.self_mem_subtrees⟩

theorem ids_subset_of_mem_subtrees {s t : Tree} (h : s ∈ t.subtrees) : s.ids ⊆ t.ids := by
  intro n hn
  obtain ⟨r, hr, rfl⟩ := exists_subtree_of_mem_ids hn
  rw [← map_id_subtrees]
  exact List.mem_map_of_mem (mem_subtrees_trans hr h)

/-- A subtree is the whole tree or a child of another subtree. -/
theorem eq_or_child_of_mem_subtrees {s t : Tree} (h : s ∈ t.subtrees) :
    s = t ∨ ∃ r ∈ t.subtrees, s ∈ r.children := by
  induction t with
  | node n kind ts ih =>
    rw [subtrees_node, List.mem_cons, List.mem_flatMap] at h
    rcases h with rfl | ⟨t, ht, hs⟩
    · exact .inl rfl
    · refine .inr ?_
      rcases ih t ht hs with rfl | ⟨r, hr, hs⟩
      · exact ⟨node n kind ts, self_mem_subtrees _, ht⟩
      · exact ⟨r, mem_subtrees_trans hr (child_mem_subtrees ht), hs⟩

theorem sublist_ids_of_mem {t : Tree} {ts : List Tree} (h : t ∈ ts) :
    t.ids.Sublist (ts.flatMap ids) := by
  rw [List.flatMap_def]
  exact List.sublist_flatten_of_mem (List.mem_map_of_mem h)

theorem sublist_ids_of_mem_subtrees {s t : Tree} (h : s ∈ t.subtrees) : s.ids.Sublist t.ids := by
  induction t with
  | node n kind ts ih =>
    rw [subtrees_node, List.mem_cons, List.mem_flatMap] at h
    rcases h with rfl | ⟨t, ht, hs⟩
    · exact List.Sublist.refl _
    · rw [ids_node]
      exact ((ih t ht hs).trans (sublist_ids_of_mem ht)).cons n

/-- The tops of trees stand among their addresses in order. -/
theorem map_id_sublist (ts : List Tree) : (ts.map id).Sublist (ts.flatMap ids) := by
  induction ts with
  | nil => exact List.Sublist.refl _
  | cons t ts ih =>
    rw [List.map_cons, List.flatMap_cons]
    have htop : [t.id].Sublist t.ids := List.singleton_sublist.2 t.id_mem_ids
    exact htop.append ih

/-! ## Height -/

theorem height_node_le {n h : NodeId} {kind : NodeKind} {ts : List Tree} :
    (node n kind ts).height ≤ h + 1 ↔ ∀ t ∈ ts, t.height ≤ h := by
  rw [height, Nat.add_le_add_iff_right]
  induction ts with
  | nil => simp
  | cons t ts ih => rw [List.map_cons, List.foldr_cons, Nat.max_le, ih, List.forall_mem_cons]

theorem height_lt_of_mem {n : NodeId} {kind : NodeKind} {ts : List Tree} {t : Tree} (h : t ∈ ts) :
    t.height < (node n kind ts).height := by
  have hself : (node n kind ts).height ≤ (ts.map height).foldr max 0 + 1 :=
    Nat.le_of_eq (by rw [height])
  rw [height, Nat.lt_succ_iff]
  exact height_node_le.1 hself t h

theorem height_pos (t : Tree) : 0 < t.height := by
  cases t
  rw [height]
  omega

/-- A tree is at most as high as it has nodes. -/
theorem height_le_length_ids (t : Tree) : t.height ≤ t.ids.length := by
  induction t with
  | node n kind ts ih =>
    rw [ids_node, List.length_cons, height_node_le]
    intro t ht
    exact Nat.le_trans (ih t ht) (sublist_ids_of_mem ht).length_le

theorem height_le_of_mem_subtrees {s t : Tree} (h : s ∈ t.subtrees) : s.height ≤ t.height := by
  induction t with
  | node n kind ts ih =>
    rw [subtrees_node, List.mem_cons, List.mem_flatMap] at h
    rcases h with rfl | ⟨t, ht, hs⟩
    · exact Nat.le_refl _
    · exact Nat.le_trans (ih t ht hs) (Nat.le_of_lt (height_lt_of_mem ht))

theorem height_le_of_mem_children {t c : Tree} (h : c ∈ t.children) : c.height ≤ t.height :=
  height_le_of_mem_subtrees (mem_subtrees.2 (.inr ⟨c, h, self_mem_subtrees c⟩))

end Tree

/-! ## Kinds of nodes -/

namespace Document

/-- The kind of a node, if the arena has it. -/
def kind? (d : Document) (n : NodeId) : Option NodeKind := (d.node? n).map (·.kind)

theorem isElement_eq {d : Document} {n : NodeId} :
    d.isElement n = (d.kind? n).any (·.isElement) := by
  rw [isElement, kind?]
  cases d.node? n <;> rfl

theorem name?_eq {d : Document} {n : NodeId} : d.name? n = (d.kind? n).bind (·.name?) := by
  rw [name?, kind?]
  cases d.node? n <;> rfl

theorem attributes_eq {d : Document} {n : NodeId} :
    d.attributes n = ((d.kind? n).map (·.attributes)).getD [] := by
  rw [attributes, kind?]
  cases d.node? n <;> rfl

/-! ## Outside the arena -/

theorem node?_of_size_le {d : Document} {n : NodeId} (h : d.size ≤ n) : d.node? n = none :=
  Array.getElem?_eq_none h

theorem children_of_size_le {d : Document} {n : NodeId} (h : d.size ≤ n) : d.children n = [] := by
  rw [children, node?_of_size_le h]
  rfl

theorem lt_size_of_mem_children {d : Document} {n c : NodeId} (h : c ∈ d.children n) : n < d.size := by
  refine Nat.not_le.1 fun hge => ?_
  simp [children_of_size_le hge] at h

theorem lt_size_of_parent? {d : Document} {n p : NodeId} (h : d.parent? n = some p) : n < d.size := by
  refine Nat.not_le.1 fun hge => ?_
  simp [parent?, node?_of_size_le hge] at h

theorem lt_size_of_isElement {d : Document} {n : NodeId} (h : d.isElement n = true) : n < d.size := by
  refine Nat.not_le.1 fun hge => ?_
  simp [isElement, node?_of_size_le hge] at h

/-! ## Held trees -/

/-- The arena has the nodes of a tree, linked as in the tree, the topmost with this parent. -/
inductive Holds (d : Document) : Option NodeId → Tree → Prop
  | node {parent : Option NodeId} {n : NodeId} {kind : NodeKind} {ts : List Tree}
      (links : d.node? n = some { kind, parent, children := ts.map Tree.id })
      (below : ∀ t ∈ ts, d.Holds (some n) t) : d.Holds parent (.node n kind ts)

namespace Holds

variable {d d' : Document} {parent : Option NodeId} {t : Tree}

theorem node? (h : d.Holds parent t) :
    d.node? t.id = some { kind := t.kind, parent, children := t.children.map Tree.id } := by
  cases h with
  | node links below => exact links

theorem links {n : NodeId} {kind : NodeKind} {ts : List Tree}
    (h : d.Holds parent (.node n kind ts)) :
    d.node? n = some { kind, parent, children := ts.map Tree.id } := h.node?

theorem kind? (h : d.Holds parent t) : d.kind? t.id = some t.kind := by
  rw [Document.kind?, h.node?, Option.map_some]

theorem parent? (h : d.Holds parent t) : d.parent? t.id = parent := by
  simp [Document.parent?, h.node?]

theorem children (h : d.Holds parent t) : d.children t.id = t.children.map Tree.id := by
  simp [Document.children, h.node?]

theorem isElement (h : d.Holds parent t) : d.isElement t.id = t.kind.isElement := by
  simp [Document.isElement, h.node?]

theorem id_lt (h : d.Holds parent t) : t.id < d.size := by
  refine Nat.not_le.1 fun hge => ?_
  have hnone := node?_of_size_le hge
  rw [h.node?] at hnone
  contradiction

theorem child {n : NodeId} {kind : NodeKind} {ts : List Tree} (h : d.Holds parent (.node n kind ts)) :
    ∀ t ∈ ts, d.Holds (some n) t := by
  cases h with
  | node links below => exact below

/-- A held tree is held with all its subtrees. -/
theorem subtree (h : d.Holds parent t) {s : Tree} (hs : s ∈ t.subtrees) : ∃ p, d.Holds p s := by
  induction t generalizing parent with
  | node n kind ts ih =>
    rw [Tree.subtrees_node, List.mem_cons, List.mem_flatMap] at hs
    rcases hs with rfl | ⟨t, ht, hs⟩
    · exact ⟨parent, h⟩
    · exact ih t ht (h.child t ht) hs

theorem lt_of_mem_ids (h : d.Holds parent t) {n : NodeId} (hn : n ∈ t.ids) : n < d.size := by
  obtain ⟨s, hs, rfl⟩ := Tree.exists_subtree_of_mem_ids hn
  obtain ⟨p, hp⟩ := h.subtree hs
  exact hp.id_lt

/-- Below a node that has a parent every node has one. -/
theorem parent?_isSome {p : NodeId} (h : d.Holds (some p) t) {n : NodeId} (hn : n ∈ t.ids) :
    (d.parent? n).isSome = true := by
  induction t generalizing p with
  | node m kind ts ih =>
    rw [Tree.ids_node, List.mem_cons, List.mem_flatMap] at hn
    rcases hn with rfl | ⟨t, ht, hn⟩
    · exact (congrArg Option.isSome h.parent?).trans rfl
    · exact ih t ht (h.child t ht) hn

/-- An arena holds at most one tree at an address. -/
theorem unique (h : d.Holds parent t) {parent' : Option NodeId} {t' : Tree}
    (h' : d.Holds parent' t') (hid : t.id = t'.id) : t = t' ∧ parent = parent' := by
  induction t generalizing parent t' parent' with
  | node n kind ts ih =>
    cases h' with
    | @node _ n' kind' ts' links' below' =>
      rw [Tree.id_node, Tree.id_node] at hid
      subst hid
      have hlinks := h.node?
      rw [Tree.id_node, links', Option.some.injEq, Node.mk.injEq] at hlinks
      obtain ⟨hkind, hparent, hids⟩ := hlinks
      have hts : ts = ts' := by
        have hlength : ts.length = ts'.length := by
          simpa using congrArg List.length hids.symm
        -- two lists of trees with the same tops: by `ih` they agree at each place
        refine List.ext_getElem hlength fun i hi hi' => ?_
        have hchild : ts[i].id = ts'[i].id := by
          have hget := congrArg (·[i]?) hids
          simpa [hi, hi'] using hget.symm
        exact (ih _ (List.getElem_mem hi) (h.child _ (List.getElem_mem hi))
          (below' _ (List.getElem_mem hi')) hchild).1
      exact ⟨by rw [hts]; exact congrArg (Tree.node n · ts') hkind.symm, hparent.symm⟩

/-- What an arena holds, another one holds as well when it has the same nodes there. -/
theorem frame (h : d.Holds parent t) (hsame : ∀ n ∈ t.ids, d'.node? n = d.node? n) :
    d'.Holds parent t := by
  induction t generalizing parent with
  | node n kind ts ih =>
    refine .node ?_ fun t ht => ih t ht (h.child t ht) fun m hm => ?_
    · rw [hsame n (Tree.id_mem_ids _)]
      exact h.node?
    · refine hsame m (Tree.ids_subset_of_mem_subtrees (Tree.child_mem_subtrees ht) hm)

/-! ## Walks down -/

theorem flatMap_children {α : Type} {n : NodeId} {kind : NodeKind} {ts : List Tree}
    (h : d.Holds parent (.node n kind ts)) (f : NodeId → List α) :
    (d.children n).flatMap f = ts.flatMap fun t => f t.id := by
  have hchildren := h.children
  rw [Tree.id_node, Tree.children_node] at hchildren
  rw [hchildren, List.flatMap_map]

/-- With fuel for its height a held tree is walked whole. -/
theorem descendantsWithin (h : d.Holds parent t) {fuel : Nat} (hfuel : t.height ≤ fuel) :
    d.descendantsWithin fuel t.id = t.elements := by
  induction t generalizing parent fuel with
  | node n kind ts ih =>
    cases fuel with
    | zero => exact absurd hfuel (Nat.not_le.2 (Tree.height_pos _))
    | succ fuel =>
      have helement := h.isElement
      rw [Tree.id_node, Tree.kind_node] at helement
      rw [Tree.id_node, Document.descendantsWithin, helement, Tree.elements_node,
        h.flatMap_children]
      have hbelow : ∀ t ∈ ts, d.descendantsWithin fuel t.id = t.elements := fun t ht =>
        ih t ht (h.child t ht) (Tree.height_node_le.1 hfuel t ht)
      rw [List.flatMap_congr hbelow]

/-! ## Walks up -/

/-- The way up from a node of a held tree passes the same nodes, fewer than the tree is high, before
it comes to the top. -/
theorem exists_path (h : d.Holds parent t) {n : NodeId} (hn : n ∈ t.ids) :
    ∃ path : List NodeId, path.length < t.height ∧
      ∀ fuel, d.ancestorsWithin (path.length + fuel) n = path ++ d.ancestorsWithin fuel t.id := by
  induction t generalizing parent with
  | node m kind ts ih =>
    rw [Tree.ids_node, List.mem_cons, List.mem_flatMap] at hn
    rcases hn with rfl | ⟨t, ht, hn⟩
    · exact ⟨[], Tree.height_pos _, fun fuel => by simp⟩
    · have hchild := h.child t ht
      obtain ⟨path, hlength, hpath⟩ := ih t ht hchild hn
      refine ⟨path ++ [m], ?_, fun fuel => ?_⟩
      · have hheight : t.height < (Tree.node m kind ts).height := Tree.height_lt_of_mem ht
        rw [List.length_append, List.length_singleton]
        omega
      · have hstep : d.ancestorsWithin (1 + fuel) t.id = m :: d.ancestorsWithin fuel m := by
          rw [Nat.add_comm, ancestorsWithin, hchild.parent?]
        rw [List.length_append, List.length_singleton, Nat.add_assoc, hpath, hstep,
          List.append_assoc]
        rfl

end Holds

end Document

end FormEngine
