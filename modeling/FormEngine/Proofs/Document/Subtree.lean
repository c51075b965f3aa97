import FormEngine.Proofs.Document.Insert
/-!
# A subtree as a document of its own

The document of a subtree stands alone: its root is at address zero, under the name of the top of
the subtree, and the children are copied below it. It holds the subtree numbered anew, so names,
attributes and texts are what they were and only the addresses differ. The root is written
attribute by attribute, which is why no two attributes of the top may share a name: of two that do
the document keeps one.
-/

namespace FormEngine

/-! ## Attributes -/

namespace Attributes

/-- No two attributes of the list have one name. -/
def Distinct (attributes : List Attribute) : Prop :=
  attributes.Pairwise fun a b => a.name.same b.name = false

instance (attributes : List Attribute) : Decidable (Distinct attributes) :=
  inferInstanceAs (Decidable (attributes.Pairwise fun a b => a.name.same b.name = false))

/-- The list with all of these attributes set, in order. -/
def setAll (before attributes : List Attribute) : List Attribute :=
  attributes.foldl (fun done a => set a.name a.value done) before

/-- An attribute under a new name goes to the end. -/
theorem set_of_new {name : QName} {value : String} {attributes : List Attribute}
    (h : ∀ a ∈ attributes, a.name.same name = false) :
    set name value attributes = attributes ++ [⟨name, value⟩] := by
  induction attributes with
  | nil => rfl
  | cons a attributes ih =>
    rw [List.forall_mem_cons] at h
    simp only [set, h.1, Bool.false_eq_true, if_false, ih h.2, List.cons_append]

theorem map_name_set (name : QName) (value : String) (attributes : List Attribute) :
    (set name value attributes).map (·.name) =
      if attributes.any (·.name.same name) then attributes.map (·.name)
      else attributes.map (·.name) ++ [name] := by
  induction attributes with
  | nil => rfl
  | cons a attributes ih =>
    rw [set, List.any_cons]
    cases hsame : a.name.same name with
    | true => rfl
    | false =>
      rw [if_neg Bool.false_ne_true, Bool.false_or, List.map_cons, ih, List.map_cons]
      split <;> rfl

theorem distinct_iff {attributes : List Attribute} : Distinct attributes ↔
    (attributes.map (·.name)).Pairwise fun m n => m.same n = false := by
  rw [Distinct, List.pairwise_map]

theorem Distinct.set {attributes : List Attribute} (h : Distinct attributes) (name : QName)
    (value : String) : Distinct (Attributes.set name value attributes) := by
  rw [distinct_iff] at h ⊢
  rw [map_name_set]
  split
  · exact h
  · rename_i hnew
    rw [Bool.not_eq_true, List.any_eq_false] at hnew
    rw [List.pairwise_append]
    refine ⟨h, List.pairwise_singleton _ _, ?_⟩
    intro m hm n hn
    obtain ⟨a, ha, rfl⟩ := List.mem_map.1 hm
    rw [List.mem_singleton.1 hn]
    exact Bool.eq_false_iff.2 (hnew a ha)

/-- No attribute is set twice. -/
theorem Distinct.setAll {before : List Attribute} (h : Distinct before)
    (attributes : List Attribute) : Distinct (setAll before attributes) :=
  List.foldlRecOn attributes _ h fun _ hdone a _ => hdone.set a.name a.value

/-- Distinct attributes that are set one after the other are all there, in their order. -/
theorem setAll_of_distinct {attributes before : List Attribute}
    (h : Distinct (before ++ attributes)) : setAll before attributes = before ++ attributes := by
  induction attributes generalizing before with
  | nil => exact (List.append_nil before).symm
  | cons a attributes ih =>
    have hnew : ∀ b ∈ before, b.name.same a.name = false := fun b hb =>
      (List.pairwise_append.1 h).2.2 b hb a List.mem_cons_self
    rw [List.append_cons] at h
    rw [setAll, List.foldl_cons, set_of_new hnew, ← setAll, ih h, List.append_assoc]
    rfl

end Attributes

/-! ## The same tree -/

/-- The name without the prefix that it was written with. -/
def QName.bare (n : QName) : QName := { n with nsPrefix := "" }

/-- The kind with the prefixes of its names left out. -/
def NodeKind.bare : NodeKind → NodeKind
  | .element name attributes =>
    .element name.bare (attributes.map fun a => { a with name := a.name.bare })
  | .text value => .text value

/-- The kind with its attributes set one after the other. -/
def NodeKind.reset : NodeKind → NodeKind
  | .element name attributes => .element name (Attributes.setAll [] attributes)
  | .text value => .text value

namespace Tree

/-- What there is to read in a tree: names, attributes and texts, without addresses and prefixes. -/
def bare : Tree → Tree
  | node _ kind ts => node 0 kind.bare (ts.map bare)

theorem bare_node (n : NodeId) (kind : NodeKind) (ts : List Tree) :
    (node n kind ts).bare = node 0 kind.bare (ts.map bare) := by
  rw [bare]

@[simp]
theorem bare_renumber (t : Tree) (k : Nat) : (t.renumber k).bare = t.bare :=
  eq_renumber (g := fun kind us => node 0 kind.bare us) bare_node t k

/-- The tree with the attributes of its top set one after the other. -/
def resetTop : Tree → Tree
  | node n kind ts => node n kind.reset ts

@[simp]
theorem resetTop_node (n : NodeId) (kind : NodeKind) (ts : List Tree) :
    (node n kind ts).resetTop = node n kind.reset ts := rfl

@[simp]
theorem ids_resetTop (t : Tree) : t.resetTop.ids = t.ids := by
  cases t
  rw [resetTop_node, ids_node, ids_node]

theorem resetTop_of_distinct {t : Tree} (h : Attributes.Distinct t.kind.attributes) :
    t.resetTop = t := by
  obtain ⟨n, kind, ts⟩ := t
  cases kind with
  | element name attributes =>
    rw [resetTop_node, NodeKind.reset, Attributes.setAll_of_distinct h, List.nil_append]
  | text value => rfl

end Tree

namespace Document

/-- The tree of a forest at its root. It has no more nodes than the arena and texts at its leaves
only. -/
theorem IsForest.exists_rootTree {d : Document} (h : d.IsForest) :
    ∃ t, d.Holds none t ∧ t.id = d.root ∧ t.ids.length ≤ d.size ∧ t.TextIsLeaf := by
  obtain ⟨p, t, ht, hid, hnodup, -⟩ := h.exists_tree h.root_lt
  obtain ⟨p', t', ht', hid', -, hleaf⟩ := h.grounded d.root h.root_lt
  obtain ⟨rfl, rfl⟩ := ht.unique ht' (hid.trans hid'.symm)
  obtain rfl : p = none := by
    rw [← ht.parent?, hid, h.root_parent]
  exact ⟨t, ht, hid, ht.length_ids_le hnodup, hleaf⟩

/-- The two documents are one tree of names, attributes and texts, each at addresses and with
prefixes of its own. -/
def SameTree (d e : Document) : Prop :=
  ∃ t u, d.Holds none t ∧ t.id = d.root ∧ e.Holds none u ∧ u.id = e.root ∧ t.bare = u.bare

/-- A document has one tree at its root, so two documents are one tree when these trees are. -/
theorem sameTree_iff {d e : Document} {t u : Tree} (ht : d.Holds none t) (htid : t.id = d.root)
    (hu : e.Holds none u) (huid : u.id = e.root) : d.SameTree e ↔ t.bare = u.bare := by
  constructor
  · rintro ⟨t', u', ht', htid', hu', huid', hbare⟩
    rwa [(ht.unique ht' (htid.trans htid'.symm)).1, (hu.unique hu' (huid.trans huid'.symm)).1]
  · exact fun hbare => ⟨t, u, ht, htid, hu, huid, hbare⟩

/-! ## The document of a subtree -/

/-- The document of one element alone. -/
def lone (name : QName) (attributes : List Attribute) (namespaces : List (String × String)) :
    Document :=
  { nodes := #[{ kind := .element name attributes }], root := 0, namespaces }

theorem holds_lone (name : QName) (attributes : List Attribute)
    (namespaces : List (String × String)) :
    (lone name attributes namespaces).Holds none (.node 0 (.element name attributes) []) :=
  .node rfl (by simp)

/-- Attributes set on a lone element. -/
theorem foldl_setAttribute_lone (name : QName) (namespaces : List (String × String))
    (attributes before : List Attribute) :
    attributes.foldl (fun (d : Document) a => d.setAttribute d.root a.name a.value)
        (lone name before namespaces) =
      lone name (Attributes.setAll before attributes) namespaces := by
  induction attributes generalizing before with
  | nil => rfl
  | cons a attributes ih =>
    rw [List.foldl_cons, Attributes.setAll, List.foldl_cons, ← Attributes.setAll, ← ih]
    refine congrArg (attributes.foldl _) ?_
    simp [lone, setAttribute]

/-- Children copied one after the other under a root at address zero. -/
theorem holds_copyChildren {source : Document} {fuel : Nat} {kind : NodeKind} {us : List Tree}
    (hcopy : ∀ u ∈ us, ∀ (d : Document) (q : NodeId), q < d.size →
      d.Grafts (source.copyWithin fuel u.id d q) q (u.renumber d.size))
    {vs : List Tree} {d : Document} (hroot : d.root = 0) (hd : d.Holds none (.node 0 kind vs))
    (habove : 0 ∉ vs.flatMap Tree.ids) :
    let d' := (us.map Tree.id).foldl (fun d c => source.copyWithin fuel c d d.root) d
    d'.root = 0 ∧ d'.namespaces = d.namespaces ∧
      d'.size = d.size + (us.flatMap Tree.ids).length ∧
      d'.Holds none (.node 0 kind (vs ++ Tree.renumberAll d.size us)) := by
  induction us generalizing vs d with
  | nil => exact ⟨hroot, rfl, rfl, by rwa [Tree.renumberAll, List.append_nil]⟩
  | cons u us ih =>
    have hpos : 0 < d.size := hd.id_lt
    have hstep := hcopy u List.mem_cons_self d 0 hpos
    have hnext := hstep.holds_graft hd
    -- zero is the address of the root alone, so the copy hangs from there alone
    rw [Tree.graft_top _ habove] at hnext
    have habove' : 0 ∉ (vs ++ [u.renumber d.size]).flatMap Tree.ids := by
      rw [List.flatMap_append, List.flatMap_singleton, Tree.ids_renumber, List.mem_append,
        List.mem_range'_1]
      rintro (hzero | hzero)
      · exact habove hzero
      · omega
    have hrest := ih (fun v hv => hcopy v (List.mem_cons_of_mem u hv))
      (hstep.root.trans hroot) hnext habove'
    rw [hstep.size, hstep.namespaces, Tree.length_ids_renumber, List.append_assoc,
      List.singleton_append, Nat.add_assoc, ← List.length_append, ← List.flatMap_cons] at hrest
    rwa [List.map_cons, List.foldl_cons, hroot, Tree.renumberAll]

/-- The document of an element is the lone element, its attributes set one after the other, with
copies of the children below it. -/
theorem Holds.subtreeDocument_eq {source : Document} {q : Option NodeId} {n : NodeId} {name : QName}
    {attributes : List Attribute} {ts : List Tree}
    (h : source.Holds q (.node n (.element name attributes) ts)) :
    source.subtreeDocument n =
      (ts.map Tree.id).foldl (fun d c => source.copySubtree c d d.root)
        (lone name (Attributes.setAll [] attributes) source.namespaces) := by
  have hname : source.name? n = some name := by
    rw [Document.name?, h.links]
    rfl
  have hattributes : source.attributes n = attributes := by
    rw [Document.attributes, h.links]
    rfl
  have hchildren : source.children n = ts.map Tree.id := h.children
  rw [Document.subtreeDocument, hname, hattributes, hchildren,
    ← foldl_setAttribute_lone name source.namespaces attributes []]
  rfl

/-- **The document of a subtree holds the subtree**, numbered anew from zero and with the attributes of
its top set one after the other, and nothing else. -/
theorem Holds.standsAlone {source : Document} {q : Option NodeId} {t : Tree} (h : source.Holds q t)
    (helement : t.kind.isElement = true) (hheight : t.height ≤ source.size) :
    let e := source.subtreeDocument t.id
    e.root = 0 ∧ e.namespaces = source.namespaces ∧ e.size = t.ids.length ∧
      e.Holds none (t.resetTop.renumber 0) := by
  obtain ⟨n, kind, ts⟩ := t
  cases kind with
  | text value => contradiction
  | element name attributes =>
    have hcopy : ∀ u ∈ ts, ∀ (d : Document) (q : NodeId), q < d.size →
        d.Grafts (source.copyWithin source.size u.id d q) q (u.renumber d.size) := by
      intro u hu d q hq
      exact grafts_copyWithin (h.child u hu)
        (Nat.le_trans (Nat.le_of_lt (Tree.height_lt_of_mem hu)) hheight) d q hq
    have hcopied := holds_copyChildren hcopy rfl
      (holds_lone name (Attributes.setAll [] attributes) source.namespaces) List.not_mem_nil
    rw [Tree.id_node, h.subtreeDocument_eq, Tree.ids_node, List.length_cons, Nat.add_comm]
    exact hcopied

/-- A top with distinct attributes stays as it is. -/
theorem Holds.subtreeDocument {source : Document} {q : Option NodeId} {t : Tree}
    (h : source.Holds q t) (helement : t.kind.isElement = true)
    (hdistinct : Attributes.Distinct t.kind.attributes) (hheight : t.height ≤ source.size) :
    (source.subtreeDocument t.id).root = 0 ∧
      (source.subtreeDocument t.id).Holds none (t.renumber 0) := by
  obtain ⟨hroot, -, -, hheld⟩ := h.standsAlone helement hheight
  rw [Tree.resetTop_of_distinct hdistinct] at hheld
  exact ⟨hroot, hheld⟩

end Document

end FormEngine
