import FormEngine.Proofs.Component.Links
/-!
# The line of a node

The line of a node is the node with everything above it, from the inside out. In a forest it goes on
from each of its nodes as the line of that node does, and a walk down from the root comes to the nodes
of a line in the opposite order.
-/

namespace FormEngine

namespace Document

variable {d : Document} {n m p x : NodeId}

/-- The node and the nodes above it, from the inside out. -/
def line (d : Document) (n : NodeId) : List NodeId := n :: d.ancestors n

theorem mem_line_self (d : Document) (n : NodeId) : n ∈ d.line n := List.mem_cons_self

/-- Nothing is above a node without a parent. -/
theorem ancestors_of_parent?_eq_none (h : d.parent? n = none) : d.ancestors n = [] := by
  rw [Document.ancestors]
  cases d.size with
  | zero => rfl
  | succ size => rw [Document.ancestorsWithin, h]

/-- Above an ancestor is the rest of the way up. -/
theorem IsForest.ancestors_of_split (h : d.IsForest) {inner outer : List NodeId}
    (hsplit : d.ancestors n = inner ++ m :: outer) : d.ancestors m = outer := by
  induction inner generalizing n with
  | nil =>
    cases hp : d.parent? n with
    | none =>
      rw [ancestors_of_parent?_eq_none hp] at hsplit
      contradiction
    | some p =>
      rw [h.ancestors_of_parent? hp, List.nil_append] at hsplit
      obtain ⟨rfl, houter⟩ := List.cons.inj hsplit
      exact houter
  | cons q inner ih =>
    cases hp : d.parent? n with
    | none =>
      rw [ancestors_of_parent?_eq_none hp] at hsplit
      contradiction
    | some p =>
      rw [h.ancestors_of_parent? hp, List.cons_append] at hsplit
      obtain ⟨rfl, hrest⟩ := List.cons.inj hsplit
      exact ih hrest

theorem IsForest.ancestors_subset (h : d.IsForest) (hm : m ∈ d.ancestors n) :
    d.ancestors m ⊆ d.ancestors n := by
  obtain ⟨inner, outer, hsplit⟩ := List.append_of_mem hm
  rw [h.ancestors_of_split hsplit, hsplit]
  exact fun a ha => List.mem_append_right _ (List.mem_cons_of_mem m ha)

theorem IsForest.mem_line_trans (h : d.IsForest) (hm : m ∈ d.line n) (hn : n ∈ d.line x) :
    m ∈ d.line x := by
  rcases List.mem_cons.1 hn with rfl | hn
  · exact hm
  · refine List.mem_cons_of_mem x ?_
    rcases List.mem_cons.1 hm with rfl | hm
    · exact hn
    · exact h.ancestors_subset hn hm

/-! ## Lines and walks down -/

/-- In a list of blocks, only one block has elements that count. -/
theorem filter_flatMap_of_block {α β : Type} {g : β → List α} {P : α → Bool} {before after : List β}
    {b : β} (hbefore : ∀ a ∈ before.flatMap g, P a = false) (hafter : ∀ a ∈ after.flatMap g, P a = false) :
    ((before ++ b :: after).flatMap g).filter P = (g b).filter P := by
  have hnone : ∀ l : List α, (∀ a ∈ l, P a = false) → l.filter P = [] := fun l hl =>
    List.filter_eq_nil_iff.2 fun a ha => by rw [hl a ha]; exact Bool.false_ne_true
  rw [List.flatMap_append, List.flatMap_cons, List.filter_append, List.filter_append,
    hnone _ hbefore, hnone _ hafter, List.nil_append, List.append_nil]

/-- The part of a line in a tree, which the walk over the tree comes to in the opposite order. -/
theorem Holds.exists_line (hd : d.IsForest) {parent : Option NodeId} {t : Tree}
    (h : d.Holds parent t) (hnodup : t.ids.Nodup) (hx : x ∈ t.elements) :
    ∃ way, d.line x = way ++ d.ancestors t.id ∧ t.id ∈ way ∧ way ⊆ t.ids ∧
      t.elements.filter (fun n => way.contains n) = way.reverse := by
  induction t generalizing parent with
  | node n kind ts ih =>
    rw [Tree.elements_node] at hx ⊢
    split at hx
    case isFalse => contradiction
    case isTrue hkind =>
    rw [Tree.ids_node, List.nodup_cons] at hnodup
    obtain ⟨hn, hbelow⟩ := hnodup
    have helements : ∀ {u : Tree}, u.elements ⊆ u.ids := fun {u} => u.elements_sublist_ids.subset
    have hnotMem : n ∉ ts.flatMap Tree.elements := by
      intro hmem
      obtain ⟨u, hu, hmem⟩ := List.mem_flatMap.1 hmem
      exact hn (List.mem_flatMap.2 ⟨u, hu, helements hmem⟩)
    rw [if_pos hkind, Tree.id_node, Tree.ids_node]
    rcases List.mem_cons.1 hx with rfl | hx
    · refine ⟨[x], rfl, List.mem_singleton.2 rfl, by simp, ?_⟩
      have hnone : (ts.flatMap Tree.elements).filter (fun n => [x].contains n) = [] := by
        refine List.filter_eq_nil_iff.2 fun m hm => ?_
        rw [List.contains_iff_mem, List.mem_singleton]
        rintro rfl
        exact hnotMem hm
      rw [List.filter_cons_of_pos (by simp), hnone]
      rfl
    · obtain ⟨t, ht, hxt⟩ := List.mem_flatMap.1 hx
      obtain ⟨before, after, rfl⟩ := List.append_of_mem ht
      rw [List.flatMap_append, List.flatMap_cons] at hbelow
      have hchild := h.child t ht
      have htnodup : t.ids.Nodup := (List.nodup_append.1 (List.nodup_append.1 hbelow).2.1).1
      obtain ⟨way, hline, htop, hsub, hfilter⟩ := ih t ht hchild htnodup hxt
      have hway : way ⊆ (before ++ t :: after).flatMap Tree.ids := fun m hm =>
        List.mem_flatMap.2 ⟨t, ht, hsub hm⟩
      refine ⟨way ++ [n], ?_, by simp, ?_, ?_⟩
      · rw [hline, hd.ancestors_of_parent? hchild.parent?, List.append_assoc]
        rfl
      · exact List.append_subset.2 ⟨fun m hm => List.mem_cons_of_mem n (hway hm), by simp⟩
      · -- of the trees below, only the one with the node meets the line
        have hout : ∀ {m : NodeId}, m ∈ before.flatMap Tree.elements ∨ m ∈ after.flatMap Tree.elements →
            way.contains m = false := by
          intro m hm
          rw [← Bool.not_eq_true, List.contains_iff_mem]
          intro hmem
          have hids : ∀ us : List Tree, m ∈ us.flatMap Tree.elements → m ∈ us.flatMap Tree.ids := by
            intro us hus
            obtain ⟨u, hu, hmu⟩ := List.mem_flatMap.1 hus
            exact List.mem_flatMap.2 ⟨u, hu, helements hmu⟩
          rcases hm with hm | hm
          · exact (List.nodup_append.1 hbelow).2.2 m (hids before hm) m
              (List.mem_append_left _ (hsub hmem)) rfl
          · exact (List.nodup_append.1 (List.nodup_append.1 hbelow).2.1).2.2 m (hsub hmem) m
              (hids after hm) rfl
        have hsame : ((before ++ t :: after).flatMap Tree.elements).filter
            (fun m => (way ++ [n]).contains m) =
            ((before ++ t :: after).flatMap Tree.elements).filter (fun m => way.contains m) := by
          refine List.filter_congr fun m hm => ?_
          have hne : m ≠ n := fun heq => hnotMem (heq ▸ hm)
          simp [hne]
        rw [List.filter_cons_of_pos (by simp), hsame,
          filter_flatMap_of_block (fun m hm => hout (.inl hm)) (fun m hm => hout (.inr hm)), hfilter,
          List.reverse_append]
        rfl

/-- **A walk down from the root comes to the nodes of a line from the outside in.** -/
theorem IsForest.filter_descendants_root (h : d.IsForest) (hx : x ∈ d.descendants d.root) :
    (d.descendants d.root).filter (fun n => (d.line x).contains n) = (d.line x).reverse := by
  obtain ⟨t, ht, hnodup⟩ := h.exists_hasTree
  rw [ht.descendants_root] at hx ⊢
  obtain ⟨way, hline, -, -, hfilter⟩ := ht.holds.exists_line h hnodup hx
  rw [ancestors_of_parent?_eq_none ht.holds.parent?, List.append_nil] at hline
  rw [hline, hfilter]

/-- The line of an element below the root is made of elements below the root. -/
theorem IsForest.line_subset (h : d.IsForest) (hx : x ∈ d.descendants d.root) :
    d.line x ⊆ d.descendants d.root := by
  intro n hn
  rw [← List.mem_reverse, ← h.filter_descendants_root hx] at hn
  exact List.mem_of_mem_filter hn

/-- So it comes to what is above a node. -/
theorem IsForest.filter_descendants_ancestors (h : d.IsForest) (hx : x ∈ d.descendants d.root) :
    (d.descendants d.root).filter (fun n => (d.ancestors x).contains n) =
      (d.ancestors x).reverse := by
  cases hp : d.parent? x with
  | none =>
    rw [ancestors_of_parent?_eq_none hp]
    simp
  | some p =>
    have hup := h.ancestors_of_parent? hp
    have hmem : p ∈ d.descendants d.root := by
      refine h.line_subset hx (List.mem_cons_of_mem x ?_)
      rw [hup]
      exact List.mem_cons_self
    rw [hup]
    exact h.filter_descendants_root hmem

/-- **A node comes up in the walk under those on its line**, if it is an element. -/
theorem IsForest.mem_descendants_iff (h : d.IsForest) (hn : n < d.size) (hx : d.isElement x = true) :
    x ∈ d.descendants n ↔ n ∈ d.line x := by
  obtain ⟨p, t, ht, rfl, hnodup, hheight⟩ := h.exists_tree hn
  obtain ⟨q, u, hu, huid, -, huleaf⟩ := h.grounded t.id hn
  obtain ⟨rfl, -⟩ := ht.unique hu huid.symm
  rw [Document.descendants, ht.descendantsWithin hheight]
  constructor
  · intro hmem
    obtain ⟨way, hline, htop, -, -⟩ := ht.exists_line h hnodup hmem
    rw [hline]
    exact List.mem_append_left _ htop
  · intro hmem
    rw [ht.mem_elements huleaf]
    refine ⟨?_, hx⟩
    rcases List.mem_cons.1 hmem with rfl | habove
    · exact t.id_mem_ids
    · exact h.mem_ids_of_ancestor ht habove

end Document

end FormEngine
