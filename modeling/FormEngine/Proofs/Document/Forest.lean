import FormEngine.Document.Check
import FormEngine.Proofs.Document.Graft
import Mathlib.Data.List.Nodup
import Mathlib.Data.List.Perm.Subperm
/-!
# The arena check accepts the forests

A forest is an arena that its parentless nodes span: the trees below them are held and have each
address once. The check finds this out by counting. Every node that a walk from the parentless
nodes meets is met once, because it has one parent that lists it once; so a walk that meets as
many nodes as there are has met all of them. A document that grows by a tree stays a forest.
-/

namespace FormEngine.Document

/-- The arena is spanned by the trees of its parentless nodes, one of which is the root, and texts
are leaves. -/
structure IsForest (d : Document) : Prop where
  root_lt : d.root < d.size
  root_parent : d.parent? d.root = none
  text_leaf : ∀ n, d.isElement n = false → d.children n = []
  spanned : ∃ ts : List Tree, ts.map Tree.id = d.parentless ∧ (∀ t ∈ ts, d.Holds none t) ∧
    (ts.flatMap Tree.ids).Perm (List.range d.size)

/-! ## Links -/

theorem mem_parentless {d : Document} {n : NodeId} :
    n ∈ d.parentless ↔ n < d.size ∧ d.parent? n = none := by
  simp [parentless]

theorem checkChildren_eq_ok_iff {d : Document} {n : NodeId} {before cs : List NodeId} :
    d.checkChildren n before cs = .ok () ↔
      (∀ c ∈ cs, d.parent? c = some n) ∧ cs.Nodup ∧ ∀ c ∈ cs, c ∉ before := by
  -- `before` grows by each child passed, so a child listed twice is found among the earlier ones
  induction cs generalizing before with
  | nil => simp [checkChildren]
  | cons c cs ih =>
    rw [checkChildren]
    by_cases hlt : c < d.nodes.size
    · have hparent : d.parent? c = d.nodes[c].parent := by
        simp [parent?, node?, hlt]
      rw [dif_pos hlt, ← hparent]
      by_cases hlink : d.parent? c = some n
      · by_cases hmem : c ∈ before
        · simp [hlink, hmem]
        · rw [if_neg (not_not_intro hlink), if_neg hmem, ih, List.forall_mem_cons,
            List.forall_mem_cons, List.nodup_cons]
          constructor
          · rintro ⟨hlinks, hnodup, hnew⟩
            exact ⟨⟨hlink, hlinks⟩, ⟨fun hc => hnew c hc List.mem_cons_self, hnodup⟩, hmem,
              fun e he hold => hnew e he (List.mem_cons_of_mem c hold)⟩
          · rintro ⟨⟨-, hlinks⟩, ⟨hc, hnodup⟩, -, hnew⟩
            refine ⟨hlinks, hnodup, fun e he hold => ?_⟩
            rcases List.mem_cons.1 hold with rfl | hold
            · exact hc he
            · exact hnew e he hold
      · simp [hlink]
    · have hparent : d.parent? c = none := by
        simp [parent?, node?, hlt]
      simp [hlt, hparent]

theorem checkParent_eq_ok_iff {d : Document} {n : NodeId} {parent : Option NodeId} :
    d.checkParent n parent = .ok () ↔ ∀ p ∈ parent, n ∈ d.children p := by
  cases parent with
  | none => simp [checkParent]
  | some p =>
    rw [checkParent]
    by_cases hlt : p < d.nodes.size
    · simp [hlt, children, node?]
    · simp [hlt, children, node?]

/-- The links of a node are sound: its parent lists it, its children name it as their parent and
are listed once, and a text has none. -/
structure Linked (d : Document) (n : NodeId) : Prop where
  listed : ∀ p, d.parent? n = some p → n ∈ d.children p
  text_leaf : d.isElement n = false → d.children n = []
  back : ∀ c ∈ d.children n, d.parent? c = some n
  nodup : (d.children n).Nodup

theorem checkNode_eq_ok_iff {d : Document} {n : NodeId} (hn : n < d.nodes.size) :
    d.checkNode n d.nodes[n] = .ok () ↔ d.Linked n := by
  have hnode : d.node? n = some d.nodes[n] := by simp [node?, hn]
  have hparent : d.nodes[n].parent = d.parent? n := by simp [parent?, hnode]
  have hchildren : d.nodes[n].children = d.children n := by simp [children, hnode]
  have helement : d.nodes[n].kind.isElement = d.isElement n := by simp [isElement, hnode]
  have hchild : d.checkChildren n [] (d.children n) = .ok () ↔
      (∀ c ∈ d.children n, d.parent? c = some n) ∧ (d.children n).Nodup := by
    rw [checkChildren_eq_ok_iff]
    simp
  rw [checkNode, hparent, hchildren, helement]
  cases hp : d.checkParent n (d.parent? n) with
  | error e =>
    refine ⟨fun h => by contradiction, fun h => ?_⟩
    rw [checkParent_eq_ok_iff.2 h.listed] at hp
    contradiction
  | ok =>
    have hlisted := checkParent_eq_ok_iff.1 hp
    by_cases hleaf : d.isElement n = false → d.children n = []
    · have hguard : (!d.isElement n && !(d.children n).isEmpty) = false := by
        cases he : d.isElement n <;> simp_all
      simp only [hguard]
      refine hchild.trans ⟨fun h => ⟨hlisted, hleaf, h.1, h.2⟩, fun h => ⟨h.back, h.nodup⟩⟩
    · have hguard : (!d.isElement n && !(d.children n).isEmpty) = true := by
        simp_all
      simp only [hguard]
      exact ⟨fun h => by contradiction, fun h => absurd h.text_leaf hleaf⟩

theorem checkNodes_eq_ok_iff {d : Document} {n : NodeId} {nodes : List Node} :
    d.checkNodes n nodes = .ok () ↔
      ∀ i (h : i < nodes.length), d.checkNode (n + i) nodes[i] = .ok () := by
  induction nodes generalizing n with
  | nil => simp [checkNodes]
  | cons node rest ih =>
    rw [checkNodes]
    cases hnode : d.checkNode n node with
    | error e =>
      refine ⟨fun h => by contradiction, fun h => ?_⟩
      have hfirst := h 0 (by simp)
      simp only [Nat.add_zero, List.getElem_cons_zero, hnode] at hfirst
      contradiction
    | ok =>
      refine (ih (n := n + 1)).trans ⟨fun h i hi => ?_, fun h i hi => ?_⟩
      · cases i with
        | zero => exact hnode
        | succ i =>
          have hnext := h i (by simpa using hi)
          rwa [Nat.add_assoc, Nat.add_comm 1] at hnext
      · have hnext := h (i + 1) (by simpa using hi)
        rwa [Nat.add_assoc, Nat.add_comm 1]

/-- The pass over the nodes accepts sound links. -/
theorem checkNodes_nodes_eq_ok_iff {d : Document} :
    d.checkNodes 0 d.nodes.toList = .ok () ↔ ∀ n < d.size, d.Linked n := by
  rw [checkNodes_eq_ok_iff]
  simp only [Nat.zero_add, Array.length_toList, Array.getElem_toList]
  exact ⟨fun h n hn => (checkNode_eq_ok_iff hn).1 (h n hn),
    fun h n hn => (checkNode_eq_ok_iff hn).2 (h n hn)⟩

/-- What the check looks at, one thing after the other. -/
theorem check_eq_ok_iff_links {d : Document} :
    d.check = .ok () ↔ d.root < d.size ∧ d.parent? d.root = none ∧ (∀ n < d.size, d.Linked n) ∧
      d.reached? d.size d.parentless = some d.size := by
  unfold check
  by_cases hroot : d.root < d.nodes.size
  · have hparent : d.nodes[d.root].parent = d.parent? d.root := by simp [parent?, node?, hroot]
    rw [dif_pos hroot, hparent, ← checkNodes_nodes_eq_ok_iff]
    cases hp : d.parent? d.root with
    | some p => exact ⟨fun h => by contradiction, fun h => by simp at h⟩
    | none =>
      cases hnodes : d.checkNodes 0 d.nodes.toList with
      | error e => exact ⟨fun h => by contradiction, fun h => by simp at h⟩
      | ok =>
        by_cases hreached : d.reached? d.size d.parentless = some d.size
        · simp only [hreached]
          exact ⟨fun _ => ⟨hroot, trivial, trivial, trivial⟩, fun _ => rfl⟩
        · simp only [hreached]
          exact ⟨fun h => by contradiction, fun h => by simp at h⟩
  · rw [dif_neg hroot]
    exact ⟨fun h => by contradiction, fun h => absurd h.1 hroot⟩

/-! ## Walking the stack -/

/-- A walk that ends has met the trees of its stack. -/
theorem holds_of_reached? {d : Document} (hlinked : ∀ n < d.size, d.Linked n) {fuel : Nat}
    {stack : List NodeId} {k : Nat} (h : d.reached? fuel stack = some k) :
    ∃ ts : List Tree, ts.map Tree.id = stack ∧ (∀ t ∈ ts, d.Holds (d.parent? t.id) t) ∧
      (ts.flatMap Tree.ids).length = k := by
  induction fuel generalizing stack k with
  | zero =>
    cases stack with
    | nil => exact ⟨[], rfl, by simp, by simpa [reached?] using h⟩
    | cons n stack => simp [reached?] at h
  | succ fuel ih =>
    cases stack with
    | nil => exact ⟨[], rfl, by simp, by simpa [reached?] using h⟩
    | cons n stack =>
      rw [reached?] at h
      split at h
      · rename_i hlt
        rw [Option.map_eq_some_iff] at h
        obtain ⟨k, hrest, rfl⟩ := h
        obtain ⟨ts, hids, hholds, hlength⟩ := ih hrest
        -- the trees of the stack are those of the children just pushed and those of the rest
        obtain ⟨us, vs, rfl, hus, hvs⟩ := List.map_eq_append_iff.1 hids
        have hnode : d.node? n =
            some { kind := d.nodes[n].kind, parent := d.parent? n, children := us.map Tree.id } := by
          simp [hus, parent?, node?, hlt]
        have hchildren : d.children n = us.map Tree.id := by simp [children, hnode]
        refine ⟨.node n d.nodes[n].kind us :: vs, by simp [hvs], ?_, ?_⟩
        · rw [List.forall_mem_cons]
          refine ⟨.node hnode fun u hu => ?_, fun v hv => hholds v (List.mem_append_right us hv)⟩
          have hback := (hlinked n hlt).back u.id (hchildren ▸ List.mem_map_of_mem hu)
          rw [← hback]
          exact hholds u (List.mem_append_left vs hu)
        · rw [List.flatMap_append, List.length_append] at hlength
          rw [List.flatMap_cons, Tree.ids_node, List.length_append, List.length_cons]
          omega
      · contradiction

/-- A walk with enough fuel meets every node of the trees of its stack. -/
theorem reached?_of_holds {d : Document} {fuel : Nat} {ts : List Tree}
    (hholds : ∀ t ∈ ts, ∃ p, d.Holds p t) (hfuel : (ts.flatMap Tree.ids).length ≤ fuel) :
    d.reached? fuel (ts.map Tree.id) = some (ts.flatMap Tree.ids).length := by
  induction fuel generalizing ts with
  | zero =>
    cases ts with
    | nil => rfl
    | cons t ts =>
      cases t
      simp at hfuel
  | succ fuel ih =>
    cases ts with
    | nil => rfl
    | cons t ts =>
      obtain ⟨p, ht⟩ := hholds t List.mem_cons_self
      cases t with
      | node n kind us =>
        have hlt : n < d.nodes.size := ht.id_lt
        have hchildren : d.nodes[n].children = us.map Tree.id := by
          have hlinks := ht.links
          simp only [node?, hlt, getElem?_pos, Option.some.injEq] at hlinks
          rw [hlinks]
        have hbelow : ∀ t ∈ us ++ ts, ∃ p, d.Holds p t := by
          intro t hmem
          rcases List.mem_append.1 hmem with hu | ht'
          · exact ⟨some n, ht.child t hu⟩
          · exact hholds t (List.mem_cons_of_mem _ ht')
        rw [List.flatMap_cons, Tree.ids_node, List.length_append, List.length_cons] at hfuel ⊢
        have hrest := ih hbelow (by rw [List.flatMap_append, List.length_append]; omega)
        rw [List.map_append, List.flatMap_append, List.length_append] at hrest
        rw [List.map_cons, Tree.id_node, reached?, dif_pos hlt, hchildren, hrest, Option.map_some]
        congr 1
        omega

/-! ## Counting -/

/-- The children of a node name a node with a parent once if the node is that parent. -/
theorem count_children {d : Document} (hlinked : ∀ n < d.size, d.Linked n) {c p : NodeId}
    (hc : c < d.size) (hparent : d.parent? c = some p) {n : NodeId} (hn : n < d.size) :
    (d.children n).count c = if n = p then 1 else 0 := by
  split
  · rename_i h
    subst h
    have hmem : c ∈ d.children n := (hlinked c hc).listed n hparent
    exact List.count_eq_one_of_mem (hlinked n hn).nodup hmem
  · rename_i h
    refine List.count_eq_zero.2 fun hmem => h ?_
    rw [(hlinked n hn).back c hmem, Option.some.injEq] at hparent
    exact hparent

/-- In a held tree a node is met as often as its parent, and once more when it is the top. -/
theorem count_ids {d : Document} (hlinked : ∀ n < d.size, d.Linked n) {c p : NodeId}
    (hc : c < d.size) (hparent : d.parent? c = some p) {q : Option NodeId} {t : Tree}
    (ht : d.Holds q t) :
    t.ids.count c = (if t.id = c then 1 else 0) + t.ids.count p := by
  induction t generalizing q with
  | node n kind ts ih =>
    have hchildren : (ts.map Tree.id).count c = if n = p then 1 else 0 := by
      have h := ht.children
      rw [Tree.id_node, Tree.children_node] at h
      rw [← h]
      exact count_children hlinked hc hparent ht.id_lt
    -- over sublists of the children, so that the induction on the list keeps `ih` for its members
    have hbelow : ∀ us : List Tree, (∀ u ∈ us, u ∈ ts) →
        (us.flatMap Tree.ids).count c =
          (us.map Tree.id).count c + (us.flatMap Tree.ids).count p := by
      intro us
      induction us with
      | nil => intro _; rfl
      | cons u us ih' =>
        intro hus
        have hu := ih u (hus u List.mem_cons_self) (ht.child u (hus u List.mem_cons_self))
        have hrest := ih' fun v hv => hus v (List.mem_cons_of_mem u hv)
        simp only [List.flatMap_cons, List.count_append, List.map_cons, List.count_cons, beq_iff_eq]
        omega
    have hall := hbelow ts fun _ h => h
    rw [hchildren] at hall
    simp only [Tree.ids_node, Tree.id_node, List.count_cons, beq_iff_eq, hall]
    by_cases hnc : n = c <;> by_cases hnp : n = p <;> simp only [hnc, hnp, if_true, if_false] <;>
      omega

/-- A parentless node is met at the top of its own tree only. -/
theorem count_ids_of_parentless {d : Document} {c : NodeId} (hparent : d.parent? c = none)
    {q : Option NodeId} {t : Tree} (ht : d.Holds q t) :
    t.ids.count c = if t.id = c then 1 else 0 := by
  cases t with
  | node n kind ts =>
    have hbelow : (ts.flatMap Tree.ids).count c = 0 := by
      refine List.count_eq_zero.2 fun hmem => ?_
      obtain ⟨t, hmemt, hc⟩ := List.mem_flatMap.1 hmem
      have hsome := (ht.child t hmemt).parent?_isSome hc
      rw [hparent] at hsome
      contradiction
    simp only [Tree.ids_node, Tree.id_node, List.count_cons, beq_iff_eq, hbelow]
    by_cases hnc : n = c <;> simp [hnc]

/-- Counts over a list of trees agree when they agree for each tree. -/
theorem count_flatMap_congr {f g : Tree → List NodeId} {a b : NodeId} {ts : List Tree}
    (h : ∀ t ∈ ts, (f t).count a = (g t).count b) :
    (ts.flatMap f).count a = (ts.flatMap g).count b := by
  induction ts with
  | nil => rfl
  | cons t ts ih =>
    rw [List.flatMap_cons, List.flatMap_cons, List.count_append, List.count_append,
      h t List.mem_cons_self, ih fun u hu => h u (List.mem_cons_of_mem t hu)]

/-- **The trees of the parentless nodes have no address twice** when the links are sound. -/
theorem nodup_of_linked {d : Document} (hlinked : ∀ n < d.size, d.Linked n) {ts : List Tree}
    (htops : ts.map Tree.id = d.parentless) (hholds : ∀ t ∈ ts, d.Holds none t) :
    (ts.flatMap Tree.ids).Nodup := by
  -- a top counts once and a child as often as its parent: so down every tree the count is one
  have htop : ∀ t ∈ ts, (ts.flatMap Tree.ids).count t.id = 1 := by
    intro t ht
    have hone : (ts.map Tree.id).count t.id = 1 := by
      refine List.count_eq_one_of_mem ?_ (List.mem_map_of_mem ht)
      rw [htops]
      exact List.nodup_range.filter _
    rw [← hone, List.map_eq_flatMap]
    refine count_flatMap_congr fun u hu => ?_
    rw [count_ids_of_parentless (hholds t ht).parent? (hholds u hu), List.count_singleton]
    simp only [beq_iff_eq]
  have hstep : ∀ c p, c < d.size → d.parent? c = some p →
      (ts.flatMap Tree.ids).count c = (ts.flatMap Tree.ids).count p := by
    intro c p hc hparent
    refine count_flatMap_congr fun t ht => ?_
    have hne : t.id ≠ c := by
      rintro rfl
      rw [(hholds t ht).parent?] at hparent
      contradiction
    rw [count_ids hlinked hc hparent (hholds t ht), if_neg hne, Nat.zero_add]
  have hbelow : ∀ (t : Tree) (q : Option NodeId), d.Holds q t →
      (ts.flatMap Tree.ids).count t.id = 1 → ∀ n ∈ t.ids, (ts.flatMap Tree.ids).count n = 1 := by
    intro t
    induction t with
    | node m kind us ih =>
      intro q hq hm n hn
      rw [Tree.ids_node, List.mem_cons, List.mem_flatMap] at hn
      rcases hn with rfl | ⟨u, hu, hn⟩
      · exact hm
      · have hchild := hq.child u hu
        refine ih u hu (some m) hchild ?_ n hn
        rw [hstep u.id m hchild.id_lt hchild.parent?]
        exact hm
  refine List.nodup_iff_count_le_one.2 fun n => ?_
  by_cases hn : n ∈ ts.flatMap Tree.ids
  · obtain ⟨t, ht, hnt⟩ := List.mem_flatMap.1 hn
    exact Nat.le_of_eq (hbelow t none (hholds t ht) (htop t ht) n hnt)
  · rw [List.count_eq_zero.2 hn]
    exact Nat.zero_le 1

/-! ## The check -/

/-- A held tree with no address twice has no more nodes than the arena. -/
theorem Holds.length_ids_le {d : Document} {parent : Option NodeId} {t : Tree}
    (h : d.Holds parent t) (hnodup : t.ids.Nodup) : t.ids.length ≤ d.size := by
  have hsub : t.ids ⊆ List.range d.size := by
    intro n hn
    exact List.mem_range.2 (h.lt_of_mem_ids hn)
  have hle := (List.subperm_of_subset hnodup hsub).length_le
  rwa [List.length_range] at hle

/-- Every node of a forest is the top of a held tree with no address twice, and no higher than the
arena is large. -/
theorem IsForest.exists_tree {d : Document} (h : d.IsForest) {n : NodeId} (hn : n < d.size) :
    ∃ p t, d.Holds p t ∧ t.id = n ∧ t.ids.Nodup ∧ t.height ≤ d.size := by
  obtain ⟨ts, -, hholds, hperm⟩ := h.spanned
  have hnodup : (ts.flatMap Tree.ids).Nodup := hperm.nodup_iff.2 List.nodup_range
  have hmem : n ∈ ts.flatMap Tree.ids := hperm.mem_iff.2 (List.mem_range.2 hn)
  obtain ⟨t, ht, hnt⟩ := List.mem_flatMap.1 hmem
  obtain ⟨s, hs, rfl⟩ := Tree.exists_subtree_of_mem_ids hnt
  obtain ⟨p, hp⟩ := (hholds t ht).subtree hs
  have hsub : s.ids.Sublist (ts.flatMap Tree.ids) :=
    (Tree.sublist_ids_of_mem_subtrees hs).trans (Tree.sublist_ids_of_mem ht)
  refine ⟨p, s, hp, rfl, hnodup.sublist hsub, ?_⟩
  calc s.height ≤ s.ids.length := s.height_le_length_ids
    _ ≤ (ts.flatMap Tree.ids).length := hsub.length_le
    _ = d.size := by rw [hperm.length_eq, List.length_range]

/-- A node of a forest with a parent is listed by it. -/
theorem IsForest.listed {d : Document} (h : d.IsForest) {n p : NodeId}
    (hparent : d.parent? n = some p) : n ∈ d.children p := by
  have hn := lt_size_of_parent? hparent
  obtain ⟨ts, -, hholds, hperm⟩ := h.spanned
  have hmem : n ∈ ts.flatMap Tree.ids := hperm.mem_iff.2 (List.mem_range.2 hn)
  obtain ⟨t, ht, hnt⟩ := List.mem_flatMap.1 hmem
  obtain ⟨s, hs, rfl⟩ := Tree.exists_subtree_of_mem_ids hnt
  rcases Tree.eq_or_child_of_mem_subtrees hs with rfl | ⟨r, hr, hsr⟩
  · rw [(hholds s ht).parent?] at hparent
    contradiction
  · obtain ⟨q, hq⟩ := (hholds t ht).subtree hr
    have hchild : d.parent? s.id = some r.id := by
      cases r
      exact (hq.child s hsr).parent?
    rw [hparent, Option.some.injEq] at hchild
    rw [hchild, hq.children]
    exact List.mem_map_of_mem hsr

/-- Nodes of a forest have sound links. -/
theorem IsForest.linked {d : Document} (h : d.IsForest) : ∀ n < d.size, d.Linked n := by
  intro n hn
  obtain ⟨p, t, ht, rfl, hnodup, -⟩ := h.exists_tree hn
  refine ⟨fun q hq => h.listed hq, h.text_leaf t.id, fun c hc => ?_, ?_⟩
  · rw [ht.children, List.mem_map] at hc
    obtain ⟨u, hu, rfl⟩ := hc
    cases t
    exact (ht.child u hu).parent?
  · rw [ht.children]
    cases t with
    | node m kind ts =>
      rw [Tree.ids_node, List.nodup_cons] at hnodup
      exact hnodup.2.sublist (Tree.map_id_sublist ts)

/-- **The check accepts exactly the forests.** -/
theorem check_eq_ok_iff {d : Document} : d.check = .ok () ↔ d.IsForest := by
  rw [check_eq_ok_iff_links]
  constructor
  · rintro ⟨hroot, hparent, hlinked, hreached⟩
    obtain ⟨ts, htops, hholds, hlength⟩ := holds_of_reached? hlinked hreached
    have hholds' : ∀ t ∈ ts, d.Holds none t := by
      intro t ht
      have hmem : t.id ∈ d.parentless := htops ▸ List.mem_map_of_mem ht
      rw [← (mem_parentless.1 hmem).2]
      exact hholds t ht
    have hnodup := nodup_of_linked hlinked htops hholds'
    refine ⟨hroot, hparent, fun n hn => ?_, ts, htops, hholds', ?_⟩
    · by_cases hlt : n < d.size
      · exact (hlinked n hlt).text_leaf hn
      · exact children_of_size_le (Nat.not_lt.1 hlt)
    · -- no address twice, all in range, and as many as there are: the addresses are the whole range
      have hsub : ts.flatMap Tree.ids ⊆ List.range d.size := by
        intro n hn
        obtain ⟨t, ht, hnt⟩ := List.mem_flatMap.1 hn
        exact List.mem_range.2 ((hholds t ht).lt_of_mem_ids hnt)
      refine (List.subperm_of_subset hnodup hsub).perm_of_length_le ?_
      rw [List.length_range]
      exact Nat.le_of_eq hlength.symm
  · intro h
    obtain ⟨ts, htops, hholds, hperm⟩ := h.spanned
    have hlength : (ts.flatMap Tree.ids).length = d.size := by
      rw [hperm.length_eq, List.length_range]
    have hreached := reached?_of_holds (fun t ht => ⟨none, hholds t ht⟩) (Nat.le_of_eq hlength)
    rw [htops, hlength] at hreached
    exact ⟨h.root_lt, h.root_parent, h.linked, hreached⟩

/-- With fuel for the size of a forest the way up is not cut short. -/
theorem IsForest.ancestorsWithin {d : Document} (h : d.IsForest) {n : NodeId} (hn : n < d.size)
    {fuel : Nat} (hfuel : d.size ≤ fuel) : d.ancestorsWithin fuel n = d.ancestors n := by
  obtain ⟨ts, -, hholds, hperm⟩ := h.spanned
  have hmem : n ∈ ts.flatMap Tree.ids := hperm.mem_iff.2 (List.mem_range.2 hn)
  obtain ⟨t, ht, hnt⟩ := List.mem_flatMap.1 hmem
  obtain ⟨path, hlength, hpath⟩ := (hholds t ht).exists_path hnt
  have htop : ∀ fuel, d.ancestorsWithin fuel t.id = [] := by
    intro fuel
    cases fuel with
    | zero => rfl
    | succ fuel => rw [Document.ancestorsWithin, (hholds t ht).parent?]
  have hheight : t.height ≤ d.size := by
    calc t.height ≤ t.ids.length := t.height_le_length_ids
      _ ≤ (ts.flatMap Tree.ids).length := (Tree.sublist_ids_of_mem ht).length_le
      _ = d.size := by rw [hperm.length_eq, List.length_range]
  have hall : ∀ fuel, d.size ≤ fuel → d.ancestorsWithin fuel n = path := by
    intro fuel hfuel
    -- the path uses up its length, and the fuel left over at the top finds no parent
    have hsplit : fuel = path.length + (fuel - path.length) := by omega
    rw [hsplit, hpath, htop, List.append_nil]
  rw [hall fuel hfuel, ancestors, hall d.size (Nat.le_refl _)]

/-- Descendants are elements. -/
theorem isElement_of_mem_descendantsWithin {d : Document} {fuel : Nat} {n m : NodeId}
    (hm : m ∈ d.descendantsWithin fuel n) : d.isElement m = true := by
  induction fuel generalizing n with
  | zero => simp [descendantsWithin] at hm
  | succ fuel ih =>
    rw [descendantsWithin] at hm
    split at hm
    · rename_i hn
      rw [List.mem_cons, List.mem_flatMap] at hm
      rcases hm with rfl | ⟨c, -, hm⟩
      · exact hn
      · exact ih hm
    · simp at hm

/-- Descendants are in range. -/
theorem lt_of_mem_descendantsWithin {d : Document} {fuel : Nat} {n m : NodeId}
    (hm : m ∈ d.descendantsWithin fuel n) : m < d.size :=
  lt_size_of_isElement (isElement_of_mem_descendantsWithin hm)

/-- The parent of a node of a forest is in range. -/
theorem IsForest.parent_lt {d : Document} (h : d.IsForest) {n p : NodeId}
    (hp : d.parent? n = some p) : p < d.size :=
  lt_size_of_mem_children (h.listed hp)

theorem IsForest.lt_of_mem_ancestorsWithin {d : Document} (h : d.IsForest) {fuel : Nat}
    {n a : NodeId} (ha : a ∈ d.ancestorsWithin fuel n) : a < d.size := by
  induction fuel generalizing n with
  | zero => simp [Document.ancestorsWithin] at ha
  | succ fuel ih =>
    rw [Document.ancestorsWithin] at ha
    cases hp : d.parent? n with
    | none => simp [hp] at ha
    | some p =>
      rw [hp, List.mem_cons] at ha
      rcases ha with rfl | ha
      · exact h.parent_lt hp
      · exact ih ha

/-! ## Growth -/

theorem count_flatMap_graft {p : NodeId} {t : Tree} {a : NodeId} {us : List Tree}
    (h : ∀ u ∈ us, (Tree.graft p t u).ids.count a = u.ids.count a + u.ids.count p * t.ids.count a) :
    ((us.map (Tree.graft p t)).flatMap Tree.ids).count a =
      (us.flatMap Tree.ids).count a + (us.flatMap Tree.ids).count p * t.ids.count a := by
  induction us with
  | nil => simp
  | cons u us ih =>
    have hu := h u List.mem_cons_self
    have hrest := ih fun v hv => h v (List.mem_cons_of_mem u hv)
    simp only [List.map_cons, List.flatMap_cons, List.count_append, hu, hrest, Nat.add_mul]
    omega

/-- Grafting adds the addresses of the new tree once for each node it is grafted to. -/
theorem count_ids_graft (p : NodeId) (t u : Tree) (a : NodeId) :
    (Tree.graft p t u).ids.count a = u.ids.count a + u.ids.count p * t.ids.count a := by
  induction u with
  | node n kind ts ih =>
    have hall : ((ts.map (Tree.graft p t)).flatMap Tree.ids).count a =
        (ts.flatMap Tree.ids).count a + (ts.flatMap Tree.ids).count p * t.ids.count a :=
      count_flatMap_graft ih
    have htop : ((if n = p then [t] else []).flatMap Tree.ids).count a =
        (if n = p then 1 else 0) * t.ids.count a := by
      by_cases hnp : n = p <;> simp [hnp]
    rw [Tree.graft_node, Tree.ids_node, Tree.ids_node, List.count_cons, List.count_cons,
      List.count_cons, List.flatMap_append, List.count_append, hall, htop]
    by_cases hnp : n = p <;> simp only [hnp, beq_iff_eq, if_true, if_false, Nat.add_mul] <;> omega

theorem size_eq_of_grafts {d d' : Document} {p : NodeId} {t : Tree} (hg : d.Grafts d' p t) :
    List.range d'.size = List.range d.size ++ t.ids := by
  rw [hg.size, hg.ids, List.length_range', List.range_eq_range', List.range_eq_range',
    ← List.range'_append_1, Nat.zero_add]

/-- Everything new has a parent. -/
theorem parentless_of_grafts {d d' : Document} {p : NodeId} {t : Tree} (hg : d.Grafts d' p t) :
    d'.parentless = d.parentless := by
  have hnew : t.ids.filter (fun n => (d'.parent? n).isNone) = [] := by
    refine List.filter_eq_nil_iff.2 fun n hn => ?_
    have hsome := hg.holds.parent?_isSome hn
    rw [Option.isSome_iff_ne_none] at hsome
    simpa using hsome
  have hold : ∀ n ∈ List.range d.size, (d'.parent? n).isNone = (d.parent? n).isNone := by
    intro n hn
    rw [parent?, hg.old n (List.mem_range.1 hn), parent?]
    cases d.node? n with
    | none => rfl
    | some node =>
      by_cases hnp : n = p <;> simp [hnp, Node.addChild]
  rw [parentless, size_eq_of_grafts hg, List.filter_append, hnew, List.append_nil, parentless]
  exact List.filter_congr hold

/-- Texts are leaves in a grown document when they were before and are in what it grew by. -/
theorem text_leaf_of_grafts {d d' : Document} {p : NodeId} {t : Tree}
    (h : ∀ n, d.isElement n = false → d.children n = []) (hg : d.Grafts d' p t)
    (hp : d.isElement p = true) (hleaf : t.TextIsLeaf) (n : NodeId) (hn : d'.isElement n = false) :
    d'.children n = [] := by
  by_cases hold : n < d.size
  · have hnode := hg.old n hold
    by_cases hnp : n = p
    · subst hnp
      cases hd : d.node? n with
      | none => simp [isElement, hd] at hp
      | some node =>
        rw [hd] at hnode
        simp [isElement, hnode, Node.addChild] at hn
        simp [isElement, hd, hn] at hp
    · rw [hg.old_ne hold hnp] at hnode
      have hsame : d'.node? n = d.node? n := hg.old_ne hold hnp
      rw [children, hsame]
      refine h n ?_
      rwa [isElement, hsame] at hn
  · by_cases hnew : n < d'.size
    · have hmem : n ∈ t.ids := by
        rw [hg.ids, List.mem_range'_1, ← hg.size]
        exact ⟨Nat.not_lt.1 hold, hnew⟩
      obtain ⟨s, hs, rfl⟩ := Tree.exists_subtree_of_mem_ids hmem
      obtain ⟨q, hq⟩ := hg.holds.subtree hs
      rw [hq.children, hleaf s hs (hq.isElement ▸ hn), List.map_nil]
    · exact children_of_size_le (Nat.not_lt.1 hnew)

/-- **A forest that grows under an element stays a forest.** -/
theorem IsForest.grafts {d d' : Document} {p : NodeId} {t : Tree} (h : d.IsForest)
    (hg : d.Grafts d' p t) (hp : d.isElement p = true) (hleaf : t.TextIsLeaf) : d'.IsForest := by
  obtain ⟨ts, htops, hholds, hperm⟩ := h.spanned
  refine ⟨?_, ?_, fun n hn => text_leaf_of_grafts h.text_leaf hg hp hleaf n hn,
    ts.map (Tree.graft p t), ?_, ?_, ?_⟩
  · rw [hg.root]
    exact Nat.lt_trans h.root_lt hg.size_lt
  · have hroot : d'.root ∈ d'.parentless := by
      rw [parentless_of_grafts hg, hg.root]
      exact mem_parentless.2 ⟨h.root_lt, h.root_parent⟩
    exact (mem_parentless.1 hroot).2
  · rw [parentless_of_grafts hg, ← htops]
    simp
  · intro u hu
    obtain ⟨v, hv, rfl⟩ := List.mem_map.1 hu
    exact hg.holds_graft (hholds v hv)
  · -- the node grown under is met once in the forest, so the new addresses come in once
    have hcount : (ts.flatMap Tree.ids).count p = 1 := by
      refine List.count_eq_one_of_mem (hperm.nodup_iff.2 List.nodup_range) ?_
      exact hperm.mem_iff.2 (List.mem_range.2 (lt_size_of_isElement hp))
    rw [size_eq_of_grafts hg]
    refine List.Perm.trans ?_ (hperm.append_right t.ids)
    refine List.perm_iff_count.2 fun a => ?_
    rw [count_flatMap_graft fun u _ => count_ids_graft p t u a, hcount, Nat.one_mul,
      List.count_append]

end FormEngine.Document
