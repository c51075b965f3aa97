import FormEngine.Document.Cursor
import FormEngine.Proofs.Document.Arena
import FormEngine.Proofs.Document.Line
import Mathlib.Logic.Relation
/-!
# Walks that come to an end

The links of an arena are walked without a record of where one has been. In a forest no record is
needed. The way up ends because every node has a way up that ends, and the stack of the way down holds
the tops of finite trees, of which one is taken off and gives way to the trees below it. So both walks
end, they ask only for nodes that are there, and what they come to is what the recursion over the
document lists. Up and down are two views of one order: an element is above another one exactly if the
walk down from the first comes to the second later on.
-/

namespace FormEngine.Document

variable {d : Document} {n m a p : NodeId}

/-! ## Asking until the end -/

/-- Asked for one node after the other, the walk answers with these nodes and then is over. -/
inductive Enumerates {σ : Type} (move : σ → Move σ) : σ → List NodeId → Prop
  | ended {s : σ} (h : move s = .ended) : Enumerates move s []
  | next {s rest : σ} {n : NodeId} {ns : List NodeId} (h : move s = .next n rest)
      (hrest : Enumerates move rest ns) : Enumerates move s (n :: ns)

namespace Enumerates

variable {σ : Type} {move : σ → Move σ} {s s' : σ} {ns ns' : List NodeId}

/-- A walk has one list of answers. -/
theorem unique (h : Enumerates move s ns) (h' : Enumerates move s ns') : ns = ns' := by
  induction h generalizing ns' with
  | ended h =>
    cases h' with
    | ended _ => rfl
    | next h'' _ => rw [h] at h''; contradiction
  | @next s rest n ns h _ ih =>
    cases h' with
    | ended h'' => rw [h] at h''; contradiction
    | next h'' hrest' =>
      rw [h] at h''
      obtain ⟨rfl, rfl⟩ := Move.next.inj h''
      rw [ih hrest']

theorem iff_eq (h : Enumerates move s ns) : Enumerates move s ns' ↔ ns' = ns :=
  ⟨fun h' => h'.unique h, fun heq => heq ▸ h⟩

/-- What a walk answers depends on its first move alone. -/
theorem congr (h : Enumerates move s ns) (hmove : move s' = move s) : Enumerates move s' ns := by
  cases h with
  | ended h => exact .ended (hmove.trans h)
  | next h hrest => exact .next (hmove.trans h) hrest

end Enumerates

/-! ## Down -/

/-- **The top of a held tree gives way to its elements**, and the walk goes on with what is left on the
stack. -/
theorem Holds.enumerates {parent : Option NodeId} {t : Tree} (h : d.Holds parent t)
    {stack ns : List NodeId} (hrest : Enumerates d.moveDown stack ns) :
    Enumerates d.moveDown (t.id :: stack) (t.elements ++ ns) := by
  induction t generalizing parent stack ns with
  | node n kind ts ih =>
    rw [Tree.id_node, Tree.elements_node]
    cases kind with
    | text value =>
      refine hrest.congr ?_
      rw [moveDown, h.links]
    | element name attributes =>
      -- the children are on the stack as the tops of their own trees
      have hbelow : ∀ us : List Tree, (∀ u ∈ us, u ∈ ts) →
          Enumerates d.moveDown (us.map Tree.id ++ stack) (us.flatMap Tree.elements ++ ns) := by
        intro us hus
        induction us with
        | nil => exact hrest
        | cons u us ih' =>
          rw [List.forall_mem_cons] at hus
          rw [List.map_cons, List.cons_append, List.flatMap_cons, List.append_assoc]
          exact ih u hus.1 (h.child u hus.1) (ih' hus.2)
      refine .next ?_ (hbelow ts fun _ hu => hu)
      rw [moveDown, h.links]

namespace IsForest

theorem exists_elements (h : d.IsForest) (hn : n < d.size) :
    ∃ p t, d.Holds p t ∧ t.id = n ∧ t.ids.Nodup ∧ d.descendants n = t.elements := by
  obtain ⟨p, t, ht, rfl, hnodup, hheight⟩ := h.exists_tree hn
  exact ⟨p, t, ht, rfl, hnodup, ht.descendantsWithin hheight⟩

theorem enumerates_moveDown (h : d.IsForest) (hn : n < d.size) :
    Enumerates d.moveDown [n] (d.descendants n) := by
  obtain ⟨p, t, ht, rfl, -, helements⟩ := h.exists_elements hn
  rw [helements, ← List.append_nil t.elements]
  exact ht.enumerates (.ended rfl)

theorem descendants_eq_nil (helement : d.isElement n = false) : d.descendants n = [] := by
  rw [Document.descendants]
  cases d.size with
  | zero => rfl
  | succ size => rw [descendantsWithin, helement, if_neg Bool.false_ne_true]

/-- **The walk down is the recursion over the document**: an element, and then what is below it, child
by child. -/
theorem descendants_eq (h : d.IsForest) (n : NodeId) :
    d.descendants n =
      if d.isElement n then n :: (d.children n).flatMap d.descendants else [] := by
  cases helement : d.isElement n with
  | false => exact descendants_eq_nil helement
  | true =>
    have hn := lt_size_of_isElement helement
    obtain ⟨p, t, ht, rfl, -, helements⟩ := h.exists_elements hn
    obtain ⟨n, kind, ts⟩ := t
    have hkind : kind.isElement = true := ht.isElement.symm.trans helement
    have hbelow : ∀ t ∈ ts, d.descendants t.id = t.elements := by
      intro t hmem
      obtain ⟨q, u, hu, huid, -, hu'⟩ := h.exists_elements (ht.child t hmem).id_lt
      obtain ⟨rfl, -⟩ := hu.unique (ht.child t hmem) huid
      exact hu'
    rw [helements, Tree.elements_node, Tree.id_node, ht.flatMap_children, List.flatMap_congr hbelow,
      if_pos hkind, if_pos rfl]

theorem nodup_descendants (h : d.IsForest) (n : NodeId) : (d.descendants n).Nodup := by
  cases helement : d.isElement n with
  | false =>
    rw [descendants_eq_nil helement]
    exact List.nodup_nil
  | true =>
    obtain ⟨p, t, ht, rfl, hnodup, helements⟩ :=
      h.exists_elements (lt_size_of_isElement helement)
    rw [helements]
    exact hnodup.sublist t.elements_sublist_ids

end IsForest

/-! ## Up -/

/-- A way up that ends is walked to its end. -/
theorem Rises.enumerates (h : d.IsForest) (hn : d.Rises n) :
    Enumerates d.moveUp (d.parent? n) (d.ancestors n) := by
  induction hn with
  | top hn hparent =>
    rw [hparent, ancestors_of_parent?_eq_none hparent]
    exact .ended rfl
  | @up n p hparent hp ih =>
    rw [hparent, h.ancestors_of_parent? hparent]
    refine .next ?_ ih
    have hlt := h.parent_lt hparent
    rw [moveUp, parent?]
    cases hnode : d.node? p with
    | none =>
      rw [node?, Array.getElem?_eq_none_iff] at hnode
      exact absurd hlt (Nat.not_lt.2 hnode)
    | some node => rfl

namespace IsForest

/-- No node is above itself. -/
theorem notMem_ancestors_self (h : d.IsForest) (n : NodeId) : n ∉ d.ancestors n := by
  intro hmem
  obtain ⟨inner, outer, hsplit⟩ := List.append_of_mem hmem
  -- above the node is again the same way up, which is longer than what is left of it
  have hlength := congrArg List.length hsplit
  rw [h.ancestors_of_split hsplit, List.length_append, List.length_cons] at hlength
  omega

theorem nodup_ancestors (h : d.IsForest) (n : NodeId) : (d.ancestors n).Nodup := by
  by_cases hn : n < d.size
  · induction h.linksForest.rises n hn with
    | top _ hparent =>
      rw [ancestors_of_parent?_eq_none hparent]
      exact List.nodup_nil
    | @up n p hparent _ ih =>
      rw [h.ancestors_of_parent? hparent, List.nodup_cons]
      exact ⟨h.notMem_ancestors_self p, ih (h.parent_lt hparent)⟩
  · have hparent : d.parent? n = none := by
      rw [parent?, node?_of_size_le (Nat.not_lt.1 hn), Option.bind_none]
    rw [ancestors_of_parent?_eq_none hparent]
    exact List.nodup_nil

end IsForest

/-! ## Both ways -/

/-- The other node is in the subtree of this one: links to children lead there. -/
def Under (d : Document) (n : NodeId) : NodeId → Prop :=
  Relation.ReflTransGen (fun p c => c ∈ d.children p) n

/-- **The links down lead to a node from the nodes on its way up**, and from itself. -/
theorem IsForest.under_iff_mem_line (h : d.IsForest) (hm : m < d.size) :
    d.Under n m ↔ n ∈ d.line m := by
  constructor
  · intro hunder
    induction hunder with
    | refl => exact d.mem_line_self n
    | @tail p c _ hc ih =>
      have hparent : d.parent? c = some p := (h.linksForest.mem_children_iff p c).1 hc
      rw [line, h.ancestors_of_parent? hparent]
      exact List.mem_cons_of_mem c (ih (h.parent_lt hparent))
  · intro hmem
    induction h.linksForest.rises m hm with
    | top _ hparent =>
      rw [line, ancestors_of_parent?_eq_none hparent, List.mem_singleton] at hmem
      exact hmem ▸ .refl
    | @up m p hparent _ ih =>
      rw [line, h.ancestors_of_parent? hparent, List.mem_cons] at hmem
      rcases hmem with rfl | hmem
      · exact .refl
      · exact (ih (h.parent_lt hparent) hmem).tail (h.listed hparent)

/-- The walk down comes to the elements of the subtree. -/
theorem IsForest.mem_descendants_iff_under (h : d.IsForest) (hn : n < d.size) :
    m ∈ d.descendants n ↔ d.isElement m = true ∧ d.Under n m := by
  constructor
  · intro hmem
    have helement : d.isElement m = true := isElement_of_mem_descendantsWithin hmem
    exact ⟨helement, (h.under_iff_mem_line (lt_size_of_isElement helement)).2
      ((h.mem_descendants_iff hn helement).1 hmem)⟩
  · rintro ⟨helement, hunder⟩
    exact (h.mem_descendants_iff hn helement).2
      ((h.under_iff_mem_line (lt_size_of_isElement helement)).1 hunder)

/-- An element is above another one if the walk down from it comes to the other one later on. -/
theorem IsForest.mem_ancestors_iff (h : d.IsForest) (ha : a < d.size)
    (hn : d.isElement n = true) : a ∈ d.ancestors n ↔ a ≠ n ∧ n ∈ d.descendants a := by
  rw [h.mem_descendants_iff ha hn, line, List.mem_cons]
  constructor
  · intro hmem
    exact ⟨fun heq => h.notMem_ancestors_self n (heq ▸ hmem), .inr hmem⟩
  · rintro ⟨hne, rfl | hmem⟩
    · exact absurd rfl hne
    · exact hmem

/-- What the walks over a document come to. Asked from a node of the arena, each of them ends without
having asked for a node that is not there, and has one list of answers. The elements of a subtree come
once each and in the order of the recursion, a node before what is below it and child after child.
Nothing comes twice on the way up. An element is above another one exactly if the walk down from it comes
to the other one later on. -/
structure Walked (d : Document) : Prop where
  down : ∀ n < d.size, ∀ ns, Enumerates d.moveDown [n] ns ↔ ns = d.descendants n
  preorder : ∀ n, d.descendants n =
    if d.isElement n then n :: (d.children n).flatMap d.descendants else []
  elements : ∀ n < d.size, ∀ m, m ∈ d.descendants n ↔ d.isElement m = true ∧ d.Under n m
  once : ∀ n, (d.descendants n).Nodup
  up : ∀ n < d.size, ∀ ns, Enumerates d.moveUp (d.parent? n) ns ↔ ns = d.ancestors n
  upOnce : ∀ n, (d.ancestors n).Nodup
  above_iff : ∀ a n, d.isElement a = true → d.isElement n = true →
    (a ∈ d.ancestors n ↔ a ≠ n ∧ n ∈ d.descendants a)

/-- **The walks over a document that passes the arena check end and agree**: with the recursion over the
document, with the links of the subtree, and with each other. -/
theorem walked_of_check (hcheck : d.check = .ok ()) : d.Walked := by
  have h := check_eq_ok_iff.1 hcheck
  refine ⟨?_, h.descendants_eq, ?_, h.nodup_descendants, ?_, h.nodup_ancestors, ?_⟩
  · intro n hn ns
    exact (h.enumerates_moveDown hn).iff_eq
  · intro n hn m
    exact h.mem_descendants_iff_under hn
  · intro n hn ns
    exact ((h.linksForest.rises n hn).enumerates h).iff_eq
  · intro a n ha hn
    exact h.mem_ancestors_iff (lt_size_of_isElement ha) hn

/-- A root at the end of the arena, a child that comes before an older one, a text between them, and an
unlinked element with a child of its own. -/
def shuffled : Document :=
  { nodes :=
      #[{ kind := .element (.plain "inner") [], parent := some 3 },
        { kind := .element (.plain "first") [], parent := some 6, children := [4] },
        { kind := .text "between", parent := some 6 },
        { kind := .element (.plain "last") [], parent := some 6, children := [0] },
        { kind := .element (.plain "leaf") [], parent := some 1 },
        { kind := .element (.plain "unlinked") [], children := [7] },
        { kind := .element (.plain "root") [], children := [1, 2, 3] },
        { kind := .element (.plain "below") [], parent := some 5 }]
    root := 6 }

/-- The order is that of the links, whatever the addresses are. -/
example : shuffled.descendants 6 = [6, 1, 4, 3, 0] ∧ shuffled.ancestors 0 = [3, 6] := by decide

theorem walked_shuffled : shuffled.check = .ok () ∧ shuffled.Walked := by
  have hcheck : shuffled.check = .ok () := by decide
  exact ⟨hcheck, walked_of_check hcheck⟩

end FormEngine.Document
