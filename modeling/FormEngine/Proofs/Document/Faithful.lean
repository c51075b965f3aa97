import FormEngine.Proofs.Document.Copies
import FormEngine.Proofs.Document.Subtree
/-!
# What the document of a subtree keeps

The document of a subtree has a copy of each node of the subtree, in document order, and nothing else.
Below the root a copy is of the same kind as its original, whatever its attributes are. The root is
written attribute by attribute, so where two attributes have one name, up to the prefix, the root has
one of them, with the value that comes last. A lookup in the original finds the value that comes first.
The document therefore answers each lookup like the subtree exactly if at the top of the subtree the
first and the last attribute of each name have one value.
-/

namespace FormEngine

/-! ## Lookups in attributes that are set one after the other -/

namespace Attributes

theorem find?_cons (uri localName : String) (a : Attribute) (attributes : List Attribute) :
    find? uri localName (a :: attributes) =
      if a.name.is uri localName then some a.value else find? uri localName attributes := by
  rw [find?, List.find?_cons]
  cases a.name.is uri localName <;> rfl

theorem find?_append (uri localName : String) (attributes more : List Attribute) :
    find? uri localName (attributes ++ more) =
      (find? uri localName attributes).or (find? uri localName more) := by
  rw [find?, List.find?_append, Option.map_or]
  rfl

/-- Under the name that is set the new value is found, and under others what was found before. -/
theorem find?_set (uri localName : String) (name : QName) (value : String)
    (attributes : List Attribute) :
    find? uri localName (set name value attributes) =
      if name.is uri localName then some value else find? uri localName attributes := by
  induction attributes with
  | nil => exact find?_cons uri localName ⟨name, value⟩ []
  | cons a attributes ih =>
    rw [set]
    by_cases hsame : a.name.same name = true
    · -- the two names are looked up alike
      have hlike : a.name.is uri localName = name.is uri localName := by
        obtain ⟨huri, hlocal⟩ := QName.same_iff.1 hsame
        rw [QName.is, QName.is, huri, hlocal]
      rw [if_pos hsame, find?_cons, find?_cons, hlike]
      split <;> rfl
    · rw [if_neg hsame, find?_cons, find?_cons, ih]
      by_cases ha : a.name.is uri localName = true
      · have hname : ¬ name.is uri localName = true := by
          intro hname
          obtain ⟨rfl, rfl⟩ := QName.is_iff.1 hname
          exact hsame ha
        rw [if_pos ha, if_neg hname, if_pos ha]
      · rw [if_neg ha, if_neg ha]

/-- **Of the attributes of one name the one that is set last is found.** -/
theorem find?_setAll (uri localName : String) (attributes before : List Attribute) :
    find? uri localName (setAll before attributes) =
      (find? uri localName attributes.reverse).or (find? uri localName before) := by
  induction attributes generalizing before with
  | nil => rfl
  | cons a attributes ih =>
    rw [setAll, List.foldl_cons, ← setAll, ih, find?_set, List.reverse_cons, find?_append,
      Option.or_assoc, find?_cons]
    split <;> rfl

/-- The first and the last attribute of each name have one value. -/
def EndsAgree (attributes : List Attribute) : Prop :=
  ∀ a ∈ attributes, find? a.name.uri a.name.localName attributes.reverse =
    find? a.name.uri a.name.localName attributes

instance (attributes : List Attribute) : Decidable (EndsAgree attributes) :=
  inferInstanceAs (Decidable (∀ a ∈ attributes, _ = _))

/-- A name that no attribute has is found from neither end. -/
theorem endsAgree_iff {attributes : List Attribute} :
    EndsAgree attributes ↔
      ∀ uri localName, find? uri localName attributes.reverse = find? uri localName attributes := by
  constructor
  · intro h uri localName
    by_cases hnamed : ∃ a ∈ attributes, a.name.is uri localName = true
    · obtain ⟨a, ha, his⟩ := hnamed
      obtain ⟨rfl, rfl⟩ := QName.is_iff.1 his
      exact h a ha
    · have hnone : ∀ as : List Attribute, as ⊆ attributes → find? uri localName as = none := by
        intro as hsub
        rw [find?, Option.map_eq_none_iff, List.find?_eq_none]
        intro a ha his
        exact hnamed ⟨a, hsub ha, his⟩
      rw [hnone _ (List.reverse_subset.2 (List.Subset.refl _)), hnone _ (List.Subset.refl _)]
  · intro h a _
    exact h a.name.uri a.name.localName

end Attributes

namespace Document

variable {d e : Document} {n : NodeId}

/-! ## Copies of the nodes -/

/-- **The document `e` is the subtree of `d` at `n` on its own.** It has the namespace table of `d` and a
copy of each node of the subtree, at the place of the node in document order. The root has the
attributes of `n` set one after the other; all other copies are of the kind of their originals. Links
are those of the originals, and no link leads up from the root. -/
structure Lifts (d e : Document) (n : NodeId) : Prop where
  root : e.root = 0
  namespaces : e.namespaces = d.namespaces
  size : e.size = (d.subtreeNodes n).length
  numbered : (d.subtreeNodes n).map (d.copyAddress n 0) = List.range e.size
  order : e.subtreeNodes e.root = List.range e.size
  top : e.node? (d.copyAddress n 0 n) = (d.node? n).map fun node =>
    { kind := node.kind.reset, children := node.children.map (d.copyAddress n 0) }
  below : ∀ m ∈ d.subtreeNodes n, m ≠ n →
    e.node? (d.copyAddress n 0 m) = (d.node? m).map (Node.relabel (d.copyAddress n 0) none)

/-- The document of an element is its subtree on its own. -/
theorem IsForest.lifts (h : d.IsForest) (hn : d.isElement n = true) :
    d.Lifts (d.subtreeDocument n) n := by
  obtain ⟨q, t, ht, rfl, hnodup, hheight⟩ := h.exists_tree (lt_size_of_isElement hn)
  have hnodes : d.subtreeNodes t.id = t.ids := ht.subtreeNodes hnodup
  have hlabels : d.copyAddress t.id 0 = fun m => 0 + t.ids.idxOf m := by
    funext m
    rw [copyAddress, hnodes]
  obtain ⟨hroot, hnamespaces, hsize, hheld⟩ := ht.standsAlone (ht.isElement.symm.trans hn) hheight
  have hids := Tree.ids_renumber t.resetTop 0
  rw [Tree.ids_resetTop, ← List.range_eq_range'] at hids
  have hwalk := hheld.subtreeNodes (hids ▸ List.nodup_range)
  rw [Tree.id_renumber, hids, ← hsize, ← hroot] at hwalk
  -- a node of the copy is reached by the place of its original
  have hrelabel := hheld
  rw [Tree.renumber_eq_relabel (by rwa [Tree.ids_resetTop]), Tree.ids_resetTop, ← hlabels] at hrelabel
  obtain ⟨n, kind, ts⟩ := t
  rw [Tree.resetTop_node, Tree.relabel_node] at hrelabel
  rw [Tree.id_node] at *
  refine ⟨hroot, hnamespaces, by rw [hnodes, hsize], ?_, hwalk, ?_, ?_⟩
  · rw [hlabels, hnodes, map_idxOf_add hnodup, hsize, List.range_eq_range']
  · rw [hrelabel.links, ht.links, Tree.map_id_relabel]
    rfl
  · intro m hm hne
    rw [hnodes, Tree.ids_node, List.mem_cons, List.mem_flatMap] at hm
    obtain ⟨u, hu, hm⟩ := hm.resolve_left hne
    exact (ht.child u hu).node?_relabel_child (hrelabel.child _ (List.mem_map_of_mem hu)) m hm

/-- The walk over a subtree starts at its top. -/
theorem subtreeNodes_eq_cons (hn : n < d.size) : ∃ ns, d.subtreeNodes n = n :: ns := by
  obtain ⟨fuel, hfuel⟩ := Nat.exists_eq_succ_of_ne_zero (Nat.ne_zero_of_lt hn)
  rw [subtreeNodes, hfuel]
  exact ⟨_, rfl⟩

theorem copyAddress_self (hn : n < d.size) (k : Nat) : d.copyAddress n k n = k := by
  obtain ⟨ns, hns⟩ := subtreeNodes_eq_cons hn
  rw [copyAddress, hns, List.idxOf_cons_self, Nat.add_zero]

namespace Lifts

/-- The root has the attributes of the top, set one after the other. -/
theorem attributes_root (h : d.Lifts e n) (hn : n < d.size) :
    e.attributes e.root = Attributes.setAll [] (d.attributes n) := by
  rw [h.root, ← copyAddress_self hn 0, attributes, h.top, attributes]
  cases d.node? n with
  | none => rfl
  | some node =>
    obtain ⟨kind, parent, children⟩ := node
    cases kind <;> rfl

theorem kind?_below (h : d.Lifts e n) {m : NodeId} (hm : m ∈ d.subtreeNodes n) (hne : m ≠ n) :
    e.kind? (d.copyAddress n 0 m) = d.kind? m := by
  rw [kind?, kind?, h.below m hm hne, Option.map_map]
  rfl

theorem kind?_top (h : d.Lifts e n) :
    e.kind? (d.copyAddress n 0 n) = (d.kind? n).map NodeKind.reset := by
  rw [kind?, kind?, h.top, Option.map_map, Option.map_map]
  rfl

theorem children (h : d.Lifts e n) {m : NodeId} (hm : m ∈ d.subtreeNodes n) :
    e.children (d.copyAddress n 0 m) = (d.children m).map (d.copyAddress n 0) := by
  by_cases hne : m = n
  · subst hne
    rw [Document.children, h.top, Document.children]
    cases d.node? m <;> rfl
  · rw [Document.children, h.below m hm hne, Document.children]
    cases d.node? m <;> rfl

end Lifts

/-! ## Answers of the copy -/

/-- **The document `e` answers for the subtree of `d` at `n`**: the nodes of the subtree and all nodes of
`e` correspond in document order, the top to the root, with children to children. Nodes that correspond
are both elements, with one name and the same values for all attributes that one can ask for, or both
texts, with one value. -/
structure Faithful (d e : Document) (n : NodeId) (f : NodeId → NodeId) : Prop where
  root : f n = e.root
  order : (d.subtreeNodes n).map f = e.subtreeNodes e.root
  whole : e.subtreeNodes e.root = List.range e.size
  children : ∀ m ∈ d.subtreeNodes n, e.children (f m) = (d.children m).map f
  name : ∀ m ∈ d.subtreeNodes n, e.name? (f m) = d.name? m
  text : ∀ m ∈ d.subtreeNodes n, ∀ value,
    e.kind? (f m) = some (.text value) ↔ d.kind? m = some (.text value)
  lookup : ∀ m ∈ d.subtreeNodes n, ∀ uri localName,
    e.attribute? (f m) uri localName = d.attribute? m uri localName

theorem Lifts.attribute?_root (h : d.Lifts e n) (hn : n < d.size) (uri localName : String) :
    e.attribute? e.root uri localName =
      Attributes.find? uri localName (d.attributes n).reverse := by
  rw [Document.attribute?, h.attributes_root hn, Attributes.find?_setAll]
  exact Option.or_none

/-- Lookups at the root are the only ones that can fail to agree. -/
theorem Lifts.faithful (h : d.Lifts e n) (hn : n < d.size)
    (hagree : Attributes.EndsAgree (d.attributes n)) :
    d.Faithful e n (d.copyAddress n 0) := by
  have hroot : d.copyAddress n 0 n = e.root := (copyAddress_self hn 0).trans h.root.symm
  refine ⟨hroot, h.numbered.trans h.order.symm, h.order, fun m hm => h.children hm, ?_, ?_, ?_⟩
  · intro m hm
    by_cases hne : m = n
    · rw [hne, name?_eq, h.kind?_top, name?_eq]
      rcases d.kind? n with _ | ⟨name, attributes⟩ | value <;> rfl
    · rw [name?_eq, h.kind?_below hm hne, name?_eq]
  · intro m hm value
    by_cases hne : m = n
    · rw [hne, h.kind?_top]
      rcases d.kind? n with _ | ⟨name, attributes⟩ | value <;> simp [NodeKind.reset]
    · rw [h.kind?_below hm hne]
  · intro m hm uri localName
    by_cases hne : m = n
    · rw [hne, hroot, h.attribute?_root hn, Attributes.endsAgree_iff.1 hagree, attribute?]
    · rw [attribute?, attributes_eq, h.kind?_below hm hne, ← attributes_eq, attribute?]

/-- **What the document of an element keeps**: the subtree of the element, its root with one attribute for
each name of the element, and that with the last value. It answers for the subtree exactly if for each
name of the element that value is the first one too. -/
theorem subtreeDocument_keeps (hcheck : d.check = .ok ()) (hn : d.isElement n = true) :
    let e := d.subtreeDocument n
    d.Lifts e n ∧ Attributes.Distinct (e.attributes e.root) ∧
      (∀ uri localName, e.attribute? e.root uri localName =
        Attributes.find? uri localName (d.attributes n).reverse) ∧
      ((∃ f, d.Faithful e n f) ↔ Attributes.EndsAgree (d.attributes n)) := by
  have h : d.Lifts (d.subtreeDocument n) n := (check_eq_ok_iff.1 hcheck).lifts hn
  have hlt : n < d.size := lt_size_of_isElement hn
  refine ⟨h, ?_, h.attribute?_root hlt, ?_, fun hagree => ⟨_, h.faithful hlt hagree⟩⟩
  · rw [h.attributes_root hlt]
    exact Attributes.Distinct.setAll .nil _
  · rintro ⟨f, hf⟩
    rw [Attributes.endsAgree_iff]
    intro uri localName
    have hself : n ∈ d.subtreeNodes n := by
      obtain ⟨ns, hns⟩ := subtreeNodes_eq_cons hlt
      exact hns ▸ List.mem_cons_self
    rw [← h.attribute?_root hlt, ← hf.root, hf.lookup n hself, attribute?]

/-- A model and an instance in it, each with two identifiers. -/
def relisted : Document :=
  { nodes :=
      #[{ kind := .element (.plain "static-state") [], children := [1] },
        { kind := .element ⟨"xf", Namespace.xforms, "model"⟩
            [⟨.plain "id", "first"⟩, ⟨.plain "id", "last"⟩]
          parent := some 0, children := [2] },
        { kind := .element ⟨"xf", Namespace.xforms, "instance"⟩
            [⟨.plain "id", "first"⟩, ⟨.plain "id", "last"⟩]
          parent := some 1, children := [3] },
        { kind := .text "data", parent := some 2 }]
    root := 0 }

/-- The instance comes over as it is, and the model with its last identifier. -/
theorem subtreeDocument_keeps_relisted : relisted.check = .ok () ∧ relisted.isElement 1 = true ∧
    relisted.Lifts (relisted.subtreeDocument 1) 1 ∧
    (relisted.subtreeDocument 1).attribute? (relisted.subtreeDocument 1).root "" "id" = some "last" ∧
    ¬ ∃ f, relisted.Faithful (relisted.subtreeDocument 1) 1 f := by
  have hcheck : relisted.check = .ok () := by decide
  have hmodel : relisted.isElement 1 = true := by decide
  obtain ⟨hlifts, -, hroot, hfaithful⟩ := subtreeDocument_keeps hcheck hmodel
  refine ⟨hcheck, hmodel, hlifts, hroot "" "id", ?_⟩
  rw [hfaithful]
  decide

/-- Not every document of an element answers like the element: the model is found under its first
identifier, its copy under the last one. -/
theorem not_all_faithful : ¬ ∀ (d : Document) (n : NodeId), d.check = .ok () →
    d.isElement n = true → ∃ f, d.Faithful (d.subtreeDocument n) n f := by
  intro h
  obtain ⟨f, hf⟩ := h relisted 1 (by decide) (by decide)
  have hlookup := hf.lookup 1 (by decide) "" "id"
  rw [hf.root] at hlookup
  exact absurd hlookup (by decide)

end Document

end FormEngine
