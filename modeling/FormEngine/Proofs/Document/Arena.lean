import FormEngine.Proofs.Document.Forest
/-!
# What the arena check looks for

The check never asks whether the links of an arena go round in a circle. It counts the nodes that
are met from the parentless ones, and this is enough because the links were looked at before: the
arenas that pass are those whose links are in range, agree in both directions, list no child twice
and lead from every node up to a parentless one. The count is safe on all arenas that the look at
the links lets through, cyclic ones included. A node is put on the stack by its one parent, which
has been taken off before, so no node comes twice, and the stack is worked off after at most as
many turns as there are nodes.
-/

namespace FormEngine.Document

/-! ## Forests by their links -/

/-- The way up from a node of the arena ends: at a node without a parent. -/
inductive Rises (d : Document) : NodeId → Prop
  | top {n : NodeId} (hn : n < d.size) (hparent : d.parent? n = none) : d.Rises n
  | up {n p : NodeId} (hparent : d.parent? n = some p) (hp : d.Rises p) : d.Rises n

/-- The links of an arena are those of a forest: the root is a node without a parent, links stay in
range, a node lists exactly the nodes that name it as their parent and each of them once, texts list
nothing, and the way up from every node ends. -/
structure LinksForest (d : Document) : Prop where
  root_lt : d.root < d.size
  root_parent : d.parent? d.root = none
  parent_lt : ∀ n p, d.parent? n = some p → p < d.size
  child_lt : ∀ p, ∀ c ∈ d.children p, c < d.size
  mem_children_iff : ∀ p c, c ∈ d.children p ↔ d.parent? c = some p
  nodup : ∀ p, (d.children p).Nodup
  text_leaf : ∀ n, d.isElement n = false → d.children n = []
  rises : ∀ n < d.size, d.Rises n

/-! ## Working off the stack -/

/-- Nodes that were met and nodes that wait on the stack: all different and in range, and the parent
of each of them was met before. -/
structure Frontier (d : Document) (met stack : List NodeId) : Prop where
  nodup : (met ++ stack).Nodup
  lt_size : ∀ n ∈ met ++ stack, n < d.size
  above : ∀ n ∈ met ++ stack, ∀ p, d.parent? n = some p → p ∈ met

/-- The stack begins with the parentless nodes. -/
theorem frontier_parentless (d : Document) : d.Frontier [] d.parentless where
  nodup := List.nodup_range.filter _
  lt_size := by
    intro n hn
    exact (mem_parentless.1 hn).1
  above := by
    intro n hn p hp
    rw [(mem_parentless.1 hn).2] at hp
    contradiction

/-- There are no more nodes met and waiting than there are nodes. -/
theorem Frontier.length_le {d : Document} {met stack : List NodeId} (h : d.Frontier met stack) :
    met.length + stack.length ≤ d.size := by
  have hsub : met ++ stack ⊆ List.range d.size := by
    intro n hn
    exact List.mem_range.2 (h.lt_size n hn)
  have hle := (List.subperm_of_subset h.nodup hsub).length_le
  rwa [List.length_append, List.length_range] at hle

/-- **One turn of the loop**: the node on top is met, and its children wait. None of them was met or
waits already, for then its parent, which is the node on top, would have been met before. -/
theorem Frontier.pop {d : Document} (hlinked : ∀ n < d.size, d.Linked n) {n : NodeId}
    {met stack : List NodeId} (h : d.Frontier met (n :: stack)) :
    d.Frontier (n :: met) (d.children n ++ stack) := by
  have hn : n < d.size := h.lt_size n (by simp)
  have hback := (hlinked n hn).back
  have hnew : n ∉ met := by
    intro hmem
    exact (List.nodup_append.1 h.nodup).2.2 n hmem n List.mem_cons_self rfl
  have hperm : (n :: met ++ (d.children n ++ stack)).Perm
      ((met ++ n :: stack) ++ d.children n) := by
    refine (List.Perm.append_left (n :: met) List.perm_append_comm).trans ?_
    rw [← List.append_assoc]
    exact List.Perm.append_right _ List.perm_middle.symm
  refine ⟨?_, ?_, ?_⟩
  · rw [hperm.nodup_iff, List.nodup_append]
    refine ⟨h.nodup, (hlinked n hn).nodup, ?_⟩
    rintro m hm c hc rfl
    exact hnew (h.above m hm n (hback m hc))
  · intro m hm
    rw [hperm.mem_iff, List.mem_append] at hm
    rcases hm with hm | hm
    · exact h.lt_size m hm
    · exact lt_size_of_parent? (hback m hm)
  · intro m hm p hp
    rw [hperm.mem_iff, List.mem_append] at hm
    rcases hm with hm | hm
    · exact List.mem_cons_of_mem n (h.above m hm p hp)
    · rw [hback m hm, Option.some.injEq] at hp
      rw [hp]
      exact List.mem_cons_self

/-- **The loop ends** after as many turns as it meets nodes, and never takes a node off the stack
that the arena does not have. -/
theorem Frontier.exists_reached? {d : Document} (hlinked : ∀ n < d.size, d.Linked n)
    {met stack : List NodeId} (h : d.Frontier met stack) :
    ∃ k, met.length + k ≤ d.size ∧ ∀ fuel, k ≤ fuel → d.reached? fuel stack = some k := by
  -- the induction is on the nodes that are not met yet
  obtain ⟨room, hroom⟩ : ∃ room, room = d.size - met.length := ⟨_, rfl⟩
  induction room generalizing met stack with
  | zero =>
    have hle := h.length_le
    have hnil : stack = [] := List.eq_nil_of_length_eq_zero (by omega)
    subst hnil
    exact ⟨0, by omega, fun fuel _ => by cases fuel <;> rfl⟩
  | succ room ih =>
    cases stack with
    | nil => exact ⟨0, by omega, fun fuel _ => by cases fuel <;> rfl⟩
    | cons n stack =>
      have hn : n < d.nodes.size := h.lt_size n (by simp)
      obtain ⟨k, hk, hrun⟩ := ih (h.pop hlinked) (by rw [List.length_cons]; omega)
      rw [List.length_cons] at hk
      refine ⟨k + 1, by omega, fun fuel hfuel => ?_⟩
      obtain ⟨fuel, rfl⟩ : ∃ f, fuel = f + 1 := ⟨fuel - 1, by omega⟩
      have hchildren : d.nodes[n].children = d.children n := by simp [children, node?, hn]
      rw [reached?, dif_pos hn, hchildren, hrun fuel (by omega), Option.map_some]

/-! ## The two forms of a forest -/

/-- From every node of a held tree the way up goes on from the top of the tree. -/
theorem Holds.rises {d : Document} {parent : Option NodeId} {t : Tree} (h : d.Holds parent t)
    (htop : ∀ p ∈ parent, d.Rises p) : ∀ n ∈ t.ids, d.Rises n := by
  induction t generalizing parent with
  | node m kind ts ih =>
    have hm : d.Rises m := by
      cases hparent : parent with
      | none => exact .top h.id_lt (hparent ▸ h.parent?)
      | some p => exact .up (hparent ▸ h.parent?) (htop p hparent)
    intro n hn
    rw [Tree.ids_node, List.mem_cons, List.mem_flatMap] at hn
    rcases hn with rfl | ⟨t, ht, hn⟩
    · exact hm
    · refine ih t ht (h.child t ht) ?_ n hn
      rintro p ⟨rfl⟩
      exact hm

/-- A node from which the way up ends is in one of the trees of the parentless nodes. -/
theorem Rises.mem_ids {d : Document} (hlinked : ∀ n < d.size, d.Linked n) {ts : List Tree}
    (htops : ts.map Tree.id = d.parentless) (hholds : ∀ t ∈ ts, d.Holds none t) {n : NodeId}
    (h : d.Rises n) : n ∈ ts.flatMap Tree.ids := by
  induction h with
  | @top n hn hparent =>
    have hmem : n ∈ ts.map Tree.id := htops ▸ mem_parentless.2 ⟨hn, hparent⟩
    obtain ⟨t, ht, rfl⟩ := List.mem_map.1 hmem
    exact List.mem_flatMap.2 ⟨t, ht, t.id_mem_ids⟩
  | @up n p hparent _ ih =>
    obtain ⟨t, ht, hp⟩ := List.mem_flatMap.1 ih
    obtain ⟨s, hs, rfl⟩ := Tree.exists_subtree_of_mem_ids hp
    obtain ⟨q, hq⟩ := (hholds t ht).subtree hs
    have hlisted := (hlinked n (lt_size_of_parent? hparent)).listed s.id hparent
    rw [hq.children, List.mem_map] at hlisted
    obtain ⟨c, hc, rfl⟩ := hlisted
    have hsub : c ∈ t.subtrees :=
      Tree.mem_subtrees_trans (Tree.mem_subtrees.2 (.inr ⟨c, hc, c.self_mem_subtrees⟩)) hs
    exact List.mem_flatMap.2 ⟨t, ht, Tree.ids_subset_of_mem_subtrees hsub c.id_mem_ids⟩

theorem IsForest.linksForest {d : Document} (h : d.IsForest) : d.LinksForest where
  root_lt := h.root_lt
  root_parent := h.root_parent
  parent_lt := fun _ _ hp => h.parent_lt hp
  child_lt := fun p c hc =>
    lt_size_of_parent? ((h.linked p (lt_size_of_mem_children hc)).back c hc)
  mem_children_iff := fun p c =>
    ⟨fun hc => (h.linked p (lt_size_of_mem_children hc)).back c hc, fun hp => h.listed hp⟩
  nodup := by
    intro p
    by_cases hp : p < d.size
    · exact (h.linked p hp).nodup
    · rw [children_of_size_le (Nat.not_lt.1 hp)]
      exact List.nodup_nil
  text_leaf := h.text_leaf
  rises := by
    intro n hn
    obtain ⟨ts, -, hholds, hperm⟩ := h.spanned
    have hmem : n ∈ ts.flatMap Tree.ids := hperm.mem_iff.2 (List.mem_range.2 hn)
    obtain ⟨t, ht, hnt⟩ := List.mem_flatMap.1 hmem
    refine (hholds t ht).rises ?_ n hnt
    intro p hp
    contradiction

theorem LinksForest.linked {d : Document} (h : d.LinksForest) : ∀ n < d.size, d.Linked n := by
  intro n _
  exact ⟨fun p hp => (h.mem_children_iff p n).2 hp, h.text_leaf n,
    fun c hc => (h.mem_children_iff n c).1 hc, h.nodup n⟩

/-- In a forest the loop meets every node. -/
theorem LinksForest.reached?_eq {d : Document} (h : d.LinksForest) :
    d.reached? d.size d.parentless = some d.size := by
  obtain ⟨k, hk, hrun⟩ := d.frontier_parentless.exists_reached? h.linked
  have hreached := hrun d.size (by simpa using hk)
  obtain ⟨ts, htops, hholds, hlength⟩ := holds_of_reached? h.linked hreached
  have hholds' : ∀ t ∈ ts, d.Holds none t := by
    intro t ht
    have hmem : t.id ∈ d.parentless := htops ▸ List.mem_map_of_mem ht
    rw [← (mem_parentless.1 hmem).2]
    exact hholds t ht
  have hsub : List.range d.size ⊆ ts.flatMap Tree.ids := by
    intro n hn
    exact (h.rises n (List.mem_range.1 hn)).mem_ids h.linked htops hholds'
  have hle := (List.subperm_of_subset List.nodup_range hsub).length_le
  rw [List.length_range, hlength] at hle
  have heq : k = d.size := by
    simp only [List.length_nil] at hk
    omega
  rw [hreached, heq]

/-- **The arena check accepts the forests and nothing else, and it ends on every arena.** An arena
passes exactly if its links are those of a forest. The look at the links reads a node only where its
address was found in range. On an arena that passes it, whether or not the links go round in a
circle, the loop that counts comes to an end after `k` turns, for some `k` that is no larger than the
arena, and takes only nodes of the arena off its stack: the count is there, and a larger allowance of
turns does not change it. -/
theorem check_ok_iff_linksForest (d : Document) :
    (d.check = .ok () ↔ d.LinksForest) ∧
      (d.checkNodes 0 d.nodes.toList = .ok () →
        ∃ k ≤ d.size, ∀ fuel, k ≤ fuel → d.reached? fuel d.parentless = some k) := by
  refine ⟨⟨fun h => (check_eq_ok_iff.1 h).linksForest, fun h => ?_⟩, fun h => ?_⟩
  · exact check_eq_ok_iff_links.2 ⟨h.root_lt, h.root_parent, h.linked, h.reached?_eq⟩
  · obtain ⟨k, hk, hrun⟩ :=
      d.frontier_parentless.exists_reached? (checkNodes_nodes_eq_ok_iff.1 h)
    exact ⟨k, by simpa using hk, hrun⟩

/-- A root, and two elements that are each other's parent. -/
def circle : Document :=
  { nodes :=
      #[{ kind := .element (.plain "root") [] },
        { kind := .element (.plain "left") [], parent := some 2, children := [2] },
        { kind := .element (.plain "right") [], parent := some 1, children := [1] }]
    root := 0 }

/-- Nothing is wrong with any single link of `circle`; the loop ends, and it is no forest. -/
theorem check_ok_iff_linksForest_circle :
    circle.checkNodes 0 circle.nodes.toList = .ok () ∧ ¬ circle.LinksForest ∧
      ∃ k ≤ circle.size, ∀ fuel, k ≤ fuel → circle.reached? fuel circle.parentless = some k := by
  have hlinks : circle.checkNodes 0 circle.nodes.toList = .ok () := by decide
  have hcheck : circle.check = .error .cycle := by decide
  obtain ⟨hforest, hloop⟩ := check_ok_iff_linksForest circle
  refine ⟨hlinks, fun h => ?_, hloop hlinks⟩
  rw [hforest.2 h] at hcheck
  contradiction

end FormEngine.Document
