import FormEngine.Proofs.Document.Insert
import Mathlib.Data.List.Flatten
/-!
# The static ids of a tree

The ids of the elements of a tree in document order, all of them or those of the nodes that satisfy
a condition, and the part of a tree that is not inside an instance of data. Numbering a tree anew
keeps its ids. An exchange of subtrees keeps every id at most as often as before, plus once for
each copy.
-/

namespace FormEngine

/-- The `id` attribute of a node. -/
def NodeKind.staticId? (kind : NodeKind) : Option String := Attributes.find? "" "id" kind.attributes

/-- The node is an instance of data. -/
def NodeKind.isData (kind : NodeKind) : Bool :=
  kind.name?.any fun name => name.is Namespace.xforms "instance"

theorem Document.staticId?_eq {d : Document} {n : NodeId} :
    d.staticId? n = (d.kind? n).bind (·.staticId?) := by
  rw [staticId?, attr?, attribute?, attributes_eq]
  cases d.kind? n <;> rfl

theorem Document.Holds.staticId? {d : Document} {parent : Option NodeId} {t : Tree}
    (h : d.Holds parent t) : d.staticId? t.id = t.kind.staticId? := by
  rw [Document.staticId?_eq, h.kind?, Option.bind_some]

theorem Document.Holds.name? {d : Document} {parent : Option NodeId} {t : Tree}
    (h : d.Holds parent t) : d.name? t.id = t.kind.name? := by
  rw [Document.name?_eq, h.kind?, Option.bind_some]

/-- Only an element has an id. -/
theorem NodeKind.isElement_of_staticId? {kind : NodeKind} {id : String}
    (h : kind.staticId? = some id) : kind.isElement = true := by
  cases kind with
  | element name attributes => rfl
  | text value => simp [staticId?, attributes, Attributes.find?] at h

/-- Only an element has a name. -/
theorem NodeKind.isElement_of_name? {kind : NodeKind} {name : QName} (h : kind.name? = some name) :
    kind.isElement = true := by
  cases kind with
  | element name attributes => rfl
  | text value => contradiction

theorem Document.isElement_of_staticId? {d : Document} {n : NodeId} {id : String}
    (h : d.staticId? n = some id) : d.isElement n = true := by
  rw [staticId?_eq, Option.bind_eq_some_iff] at h
  obtain ⟨kind, hkind, hid⟩ := h
  rw [isElement_eq, hkind, Option.any_some]
  exact NodeKind.isElement_of_staticId? hid

theorem Document.isElement_of_name? {d : Document} {n : NodeId} {name : QName}
    (h : d.name? n = some name) : d.isElement n = true := by
  rw [name?_eq, Option.bind_eq_some_iff] at h
  obtain ⟨kind, hkind, hname⟩ := h
  rw [isElement_eq, hkind, Option.any_some]
  exact NodeKind.isElement_of_name? hname

namespace Tree

/-- The static ids of the nodes that satisfy a condition. -/
def idsWhere (P : NodeId → Bool) : Tree → List String
  | node n kind ts => (if P n then kind.staticId?.toList else []) ++ ts.flatMap (idsWhere P)

/-- All static ids. -/
def staticIds (t : Tree) : List String := t.idsWhere fun _ => true

/-- The subtrees that are not inside an instance of data. -/
def exposed : Tree → List Tree
  | node n kind ts => node n kind ts :: if kind.isData then [] else ts.flatMap exposed

theorem idsWhere_node (P : NodeId → Bool) (n : NodeId) (kind : NodeKind) (ts : List Tree) :
    (node n kind ts).idsWhere P =
      (if P n then kind.staticId?.toList else []) ++ ts.flatMap (idsWhere P) := by
  rw [idsWhere]

theorem staticIds_node (n : NodeId) (kind : NodeKind) (ts : List Tree) :
    (node n kind ts).staticIds = kind.staticId?.toList ++ ts.flatMap staticIds := by
  rw [staticIds, idsWhere_node]
  rfl

theorem staticIds_eq (t : Tree) :
    t.staticIds = t.kind.staticId?.toList ++ t.children.flatMap staticIds := by
  cases t
  exact staticIds_node _ _ _

theorem exposed_node (n : NodeId) (kind : NodeKind) (ts : List Tree) :
    (node n kind ts).exposed =
      node n kind ts :: if kind.isData then [] else ts.flatMap exposed := by
  rw [exposed]

theorem self_mem_exposed (t : Tree) : t ∈ t.exposed := by
  cases t
  rw [exposed_node]
  exact List.mem_cons_self

theorem exposed_subset_subtrees (t : Tree) : t.exposed ⊆ t.subtrees := by
  induction t with
  | node n kind ts ih =>
    intro s hs
    rw [exposed_node, List.mem_cons] at hs
    rw [subtrees_node, List.mem_cons]
    refine hs.imp_right fun hs => ?_
    split at hs
    · simp at hs
    · obtain ⟨t, ht, hs⟩ := List.mem_flatMap.1 hs
      exact List.mem_flatMap.2 ⟨t, ht, ih t ht hs⟩

theorem exposed_subset_of_child {r c : Tree} (hdata : r.kind.isData = false)
    (hc : c ∈ r.children) : c.exposed ⊆ r.exposed := by
  cases r with
  | node n kind ts =>
    intro s hs
    rw [exposed_node, show kind.isData = false from hdata]
    exact List.mem_cons_of_mem _ (List.mem_flatMap.2 ⟨c, hc, hs⟩)

theorem exposed_trans {r s t : Tree} (hr : r ∈ t.exposed) (hs : s ∈ r.exposed) : s ∈ t.exposed := by
  induction t with
  | node n kind ts ih =>
    rw [exposed_node, List.mem_cons] at hr
    rcases hr with rfl | hr
    · exact hs
    · cases hdata : kind.isData with
      | true => simp [hdata] at hr
      | false =>
        rw [hdata] at hr
        obtain ⟨c, hc, hrc⟩ := List.mem_flatMap.1 hr
        exact exposed_subset_of_child (r := .node n kind ts) hdata hc (ih c hc hrc)

/-- The way down to an exposed subtree passes no instance of data. -/
theorem eq_or_child_of_mem_exposed {s t : Tree} (h : s ∈ t.exposed) :
    s = t ∨ ∃ r ∈ t.exposed, r.kind.isData = false ∧ s ∈ r.children := by
  induction t with
  | node n kind ts ih =>
    have hself := self_mem_exposed (.node n kind ts)
    rw [exposed_node, List.mem_cons] at h
    refine h.imp_right fun hs => ?_
    cases hdata : kind.isData with
    | true => simp [hdata] at hs
    | false =>
      rw [hdata] at hs
      obtain ⟨c, hc, hsc⟩ := List.mem_flatMap.1 hs
      rcases ih c hc hsc with rfl | ⟨r, hr, hrdata, hsr⟩
      · exact ⟨_, hself, hdata, hc⟩
      · exact ⟨r, exposed_subset_of_child (r := .node n kind ts) hdata hc hr, hrdata, hsr⟩

/-- The subtrees below the top that are not inside an instance of data. -/
def walked (t : Tree) : List Tree := t.children.flatMap exposed

theorem exposed_subset_walked {t c : Tree} (hc : c ∈ t.children) : c.exposed ⊆ t.walked := fun _ hs =>
  List.mem_flatMap.2 ⟨c, hc, hs⟩

theorem walked_subset_subtrees (t : Tree) : t.walked ⊆ t.subtrees := by
  intro s hs
  obtain ⟨c, hc, hs⟩ := List.mem_flatMap.1 hs
  exact mem_subtrees.2 (.inr ⟨c, hc, exposed_subset_subtrees c hs⟩)

/-- A walk goes on from what it has come to. -/
theorem exposed_subset_walked_of_child {t r c : Tree} (hr : r ∈ t.walked)
    (hdata : r.kind.isData = false) (hc : c ∈ r.children) : c.exposed ⊆ t.walked := by
  intro s hs
  obtain ⟨top, htop, hr⟩ := List.mem_flatMap.1 hr
  exact List.mem_flatMap.2
    ⟨top, htop, exposed_trans hr (exposed_subset_of_child hdata hc hs)⟩

/-- An id belongs to a node. -/
theorem mem_idsWhere {P : NodeId → Bool} {t : Tree} {x : String} :
    x ∈ t.idsWhere P ↔ ∃ s ∈ t.subtrees, P s.id = true ∧ s.kind.staticId? = some x := by
  induction t with
  | node n kind ts ih =>
    rw [idsWhere_node, List.mem_append, List.mem_flatMap]
    constructor
    · rintro (hx | ⟨t, ht, hx⟩)
      · split at hx
        · rename_i hn
          exact ⟨_, self_mem_subtrees _, hn, Option.mem_toList.1 hx⟩
        · simp at hx
      · obtain ⟨s, hs, hsx⟩ := (ih t ht).1 hx
        exact ⟨s, mem_subtrees_trans hs (child_mem_subtrees ht), hsx⟩
    · rintro ⟨s, hs, hP, hx⟩
      rcases mem_subtrees.1 hs with rfl | ⟨c, hc, hs⟩
      · left
        rw [id_node] at hP
        rw [if_pos hP]
        exact Option.mem_toList.2 hx
      · exact .inr ⟨c, hc, (ih c hc).2 ⟨s, hs, hP, hx⟩⟩

theorem mem_staticIds {t : Tree} {x : String} :
    x ∈ t.staticIds ↔ ∃ s ∈ t.subtrees, s.kind.staticId? = some x := by
  rw [staticIds, mem_idsWhere]
  simp

theorem staticIds_sublist_of_mem {t : Tree} {ts : List Tree} (h : t ∈ ts) :
    t.staticIds.Sublist (ts.flatMap staticIds) := by
  rw [List.flatMap_def]
  exact List.sublist_flatten_of_mem (List.mem_map_of_mem h)

theorem staticIds_sublist_of_mem_subtrees {s t : Tree} (h : s ∈ t.subtrees) :
    s.staticIds.Sublist t.staticIds := by
  induction t with
  | node n kind ts ih =>
    rcases mem_subtrees.1 h with rfl | ⟨c, hc, hs⟩
    · exact List.Sublist.refl _
    · rw [staticIds_node]
      exact ((ih c hc hs).trans (staticIds_sublist_of_mem hc)).trans
        (List.sublist_append_right _ _)

theorem children_staticIds_subset {s t : Tree} (h : s ∈ t.subtrees) :
    s.children.flatMap staticIds ⊆ t.staticIds := by
  intro x hx
  refine (staticIds_sublist_of_mem_subtrees h).subset ?_
  rw [staticIds_eq]
  exact List.mem_append_right _ hx

/-! ## Numbering anew -/

theorem mem_exposed_renumber {t s : Tree} {k : Nat} (h : s ∈ (t.renumber k).exposed) :
    ∃ r ∈ t.exposed, ∃ j, s = r.renumber j := by
  induction t generalizing k with
  | node n kind ts ih =>
    rw [renumber, exposed_node, List.mem_cons] at h
    rcases h with rfl | hs
    · exact ⟨_, self_mem_exposed _, k, rfl⟩
    · cases hdata : kind.isData with
      | true => simp [hdata] at hs
      | false =>
        rw [hdata] at hs
        obtain ⟨c, hc, hs⟩ := List.mem_flatMap.1 hs
        obtain ⟨t, ht, j, -, rfl⟩ := mem_renumberAll hc
        obtain ⟨r, hr, i, rfl⟩ := ih t ht hs
        refine ⟨r, ?_, i, rfl⟩
        rw [exposed_node, hdata]
        exact List.mem_cons_of_mem _ (List.mem_flatMap.2 ⟨t, ht, hr⟩)

theorem staticIds_renumber (t : Tree) (k : Nat) : (t.renumber k).staticIds = t.staticIds :=
  eq_renumber (g := fun kind ids => kind.staticId?.toList ++ ids.flatten)
    (fun _ _ _ => by rw [staticIds_node, List.flatMap_def]) t k

theorem staticIds_renumberAll (ts : List Tree) (k : Nat) :
    (renumberAll k ts).flatMap staticIds = ts.flatMap staticIds := by
  induction ts generalizing k with
  | nil => rfl
  | cons t ts ih => rw [renumberAll, List.flatMap_cons, List.flatMap_cons, staticIds_renumber, ih]

theorem children_staticIds_renumber (t : Tree) (k : Nat) :
    (t.renumber k).children.flatMap staticIds = t.children.flatMap staticIds := by
  cases t
  rw [renumber]
  exact staticIds_renumberAll _ _

/-! ## The exchange of subtrees -/

section Exchange

variable {p q : NodeId} {i : Nat} {us : List Tree}

theorem mem_exposed_exchange {t s : Tree} (h : s ∈ (exchange p q i us t).exposed) :
    (∃ r ∈ t.exposed, exchange p q i us r = s) ∨ ∃ u ∈ us, s ∈ u.exposed := by
  induction t generalizing s with
  | node n kind ts ih =>
    have hchildren : ∀ c ∈ (exchange p q i us (node n kind ts)).children, _ := fun c hc =>
      mem_children_exchange hc
    rw [exchange_node, children_node] at hchildren
    rw [exchange_node, exposed_node, List.mem_cons] at h
    rcases h with rfl | hs
    · refine .inl ⟨_, self_mem_exposed _, ?_⟩
      rw [exchange_node]
    · cases hdata : kind.isData with
      | true => simp [hdata] at hs
      | false =>
        rw [hdata] at hs
        obtain ⟨c, hc, hs⟩ := List.mem_flatMap.1 hs
        rcases hchildren c hc with ⟨r, hr, -, rfl⟩ | ⟨-, hu⟩
        · rcases ih r hr hs with ⟨v, hv, rfl⟩ | hcopy
          · refine .inl ⟨v, ?_, rfl⟩
            rw [exposed_node, hdata]
            exact List.mem_cons_of_mem _ (List.mem_flatMap.2 ⟨r, hr, hv⟩)
          · exact .inr hcopy
        · exact .inr ⟨c, hu, hs⟩

theorem mem_walked_exchange {t s : Tree} (h : s ∈ (exchange p q i us t).walked) :
    (∃ r ∈ t.walked, exchange p q i us r = s) ∨ ∃ u ∈ us, s ∈ u.exposed := by
  cases t with
  | node n kind ts =>
    obtain ⟨c, hc, hs⟩ := List.mem_flatMap.1 h
    rcases mem_children_exchange hc with ⟨r, hr, -, rfl⟩ | ⟨-, hu⟩
    · rcases mem_exposed_exchange hs with ⟨v, hv, rfl⟩ | hcopy
      · exact .inl ⟨v, exposed_subset_walked (t := .node n kind ts) hr hv, rfl⟩
      · exact .inr hcopy
    · exact .inr ⟨c, hu, hs⟩

/-- An id is there as often as before at most, and once more for each copy that has it, for each
time that the parent is there. -/
theorem count_staticIds_exchange_le (t : Tree) (x : String) :
    (exchange p q i us t).staticIds.count x ≤
      t.staticIds.count x + t.ids.count q * (us.flatMap staticIds).count x := by
  induction t with
  | node n kind ts ih =>
    have hothers : ((others p q i us ts).flatMap staticIds).count x ≤
        (ts.flatMap staticIds).count x +
          (ts.flatMap ids).count q * (us.flatMap staticIds).count x := by
      -- the point is filtered out: that can only lower the count, so it stays out of the induction
      have hfilter : ((others p q i us ts).flatMap staticIds).count x ≤
          ((ts.map (exchange p q i us)).flatMap staticIds).count x :=
        (List.filter_sublist.flatMap staticIds).count_le x
      refine Nat.le_trans hfilter ?_
      clear hfilter
      induction ts with
      | nil => simp
      | cons t ts ih' =>
        have ht := ih t List.mem_cons_self
        have hrest := ih' fun u hu => ih u (List.mem_cons_of_mem t hu)
        simp only [List.map_cons, List.flatMap_cons, List.count_append, Nat.add_mul]
        omega
    rw [exchange_node, staticIds_node, staticIds_node, ids_node, List.count_append,
      List.count_append, List.count_cons]
    by_cases hn : n = q
    · have hsplit : (((others p q i us ts).take i ++ us ++ (others p q i us ts).drop i).flatMap
          staticIds).count x =
          ((others p q i us ts).flatMap staticIds).count x + (us.flatMap staticIds).count x := by
        have htake := congrArg (fun us' => (us'.flatMap staticIds).count x)
          (List.take_append_drop i (others p q i us ts))
        simp only [List.flatMap_append, List.count_append] at htake ⊢
        omega
      rw [if_pos hn, hsplit, hn]
      simp only [beq_self_eq_true, if_true, Nat.add_mul, Nat.one_mul]
      omega
    · rw [if_neg hn]
      simp only [beq_iff_eq, hn, if_false, Nat.add_zero]
      omega

end Exchange

end Tree

/-- The node is inside an instance of data. The root is none, whatever its name. -/
def Document.inData (d : Document) (n : NodeId) : Bool :=
  (d.ancestors n).any fun a => a != d.root && d.isNamed a Namespace.xforms "instance"

theorem Document.Holds.of_mem_children {d : Document} {parent : Option NodeId} {t c : Tree}
    (h : d.Holds parent t) (hc : c ∈ t.children) : d.Holds (some t.id) c := by
  cases t
  exact h.child c hc

/-- A walk from the children of the root does not come into an instance of data. -/
theorem Document.Holds.inData_of_mem_walked {d : Document} {t s : Tree} (h : d.Holds none t)
    (hroot : t.id = d.root) (hs : s ∈ t.walked) : d.inData s.id = false := by
  -- by the fuel of the way up: the parent of a walked node is walked, or it is the root
  have hup : ∀ fuel, ∀ s ∈ t.walked, ∀ a ∈ d.ancestorsWithin fuel s.id,
      (a != d.root && d.isNamed a Namespace.xforms "instance") = false := by
    intro fuel
    induction fuel with
    | zero => intro s _ a ha; simp [ancestorsWithin] at ha
    | succ fuel ih =>
      intro s hs a ha
      obtain ⟨c, hc, hsc⟩ := List.mem_flatMap.1 hs
      rcases Tree.eq_or_child_of_mem_exposed hsc with rfl | ⟨r, hr, hdata, hsr⟩
      · -- above a child of the root there is the root alone
        have habove : d.ancestorsWithin fuel t.id = [] := by
          cases fuel with
          | zero => rfl
          | succ fuel => rw [ancestorsWithin, h.parent?]
        rw [ancestorsWithin, (h.of_mem_children hc).parent?] at ha
        simp only [habove, List.mem_singleton] at ha
        rw [ha, hroot, bne_self_eq_false, Bool.false_and]
      · have hrt := Tree.exposed_subset_walked hc hr
        obtain ⟨p, hp⟩ := h.subtree (Tree.walked_subset_subtrees t hrt)
        rw [ancestorsWithin, (hp.of_mem_children hsr).parent?, List.mem_cons] at ha
        rcases ha with rfl | ha
        · rw [isNamed, hp.name?]
          show (r.id != d.root && r.kind.isData) = false
          rw [hdata, Bool.and_false]
        · exact ih r hrt a ha
  rw [inData, List.any_eq_false]
  intro a ha
  rw [hup d.size s hs a ha]
  simp

/-- What hangs from a node has it among its ancestors. -/
theorem Document.IsForest.parent_mem_ancestors {d : Document} (hd : d.IsForest) {n m : NodeId}
    {t : Tree} (h : d.Holds (some n) t) (hm : m ∈ t.ids) : n ∈ d.ancestors m := by
  obtain ⟨path, -, hpath⟩ := h.exists_path hm
  -- with fuel for the whole arena left at the top of the tree, one step more is the node
  have habove : n ∈ d.ancestorsWithin d.size t.id := by
    obtain ⟨k, hk⟩ := Nat.exists_eq_add_of_lt h.id_lt
    rw [hk, Document.ancestorsWithin, h.parent?]
    exact List.mem_cons_self
  rw [← hd.ancestorsWithin (h.lt_of_mem_ids hm) (Nat.le_add_left d.size path.length), hpath]
  exact List.mem_append_right _ habove

/-- What has no instance of data above it is met by a walk. -/
theorem Document.IsForest.mem_exposed {d : Document} (hd : d.IsForest) {p : Option NodeId}
    {s t : Tree} (h : d.Holds p t) (hs : s ∈ t.subtrees)
    (hfree : d.hasAncestorNamed s.id Namespace.xforms "instance" = false) : s ∈ t.exposed := by
  induction t generalizing p with
  | node n kind ts ih =>
    rw [Tree.subtrees_node, List.mem_cons, List.mem_flatMap] at hs
    rcases hs with rfl | ⟨c, hc, hs⟩
    · exact Tree.self_mem_exposed _
    · have hchild := h.child c hc
      have habove : n ∈ d.ancestors s.id :=
        hd.parent_mem_ancestors hchild (Tree.ids_subset_of_mem_subtrees hs s.id_mem_ids)
      have hname : d.name? n = kind.name? := h.name?
      have hdata : (Tree.node n kind ts).kind.isData = false := by
        rw [hasAncestorNamed, List.any_eq_false] at hfree
        have hn := hfree n habove
        rw [isNamed, hname, Bool.not_eq_true] at hn
        exact hn
      exact Tree.exposed_subset_of_child hdata hc (ih c hc hchild hs)

/-- The ids of the elements of a held tree. -/
theorem Document.Holds.filterMap_elements {d : Document} {parent : Option NodeId} {t : Tree}
    (h : d.Holds parent t) (hleaf : t.TextIsLeaf) :
    t.elements.filterMap d.staticId? = t.staticIds := by
  induction t generalizing parent with
  | node n kind ts ih =>
    obtain ⟨htext, hbelow⟩ := Tree.textIsLeaf_node.1 hleaf
    have hn : d.staticId? n = kind.staticId? := h.staticId?
    rw [Tree.elements_node, Tree.staticIds_node]
    cases hkind : kind.isElement with
    | false =>
      -- a text has no id and nothing below it
      rw [htext hkind]
      cases kind with
      | element name attributes => contradiction
      | text value => rfl
    | true =>
      have hall : (ts.flatMap Tree.elements).filterMap d.staticId? = ts.flatMap Tree.staticIds := by
        rw [List.filterMap_flatMap]
        exact List.flatMap_congr fun t ht => ih t ht (h.child t ht) (hbelow t ht)
      rw [if_pos rfl, List.filterMap_cons, hn, hall]
      cases kind.staticId? <;> rfl

end FormEngine
