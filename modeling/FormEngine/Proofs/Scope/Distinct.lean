import FormEngine.Control.Element
import FormEngine.Proofs.Component.Instance
import FormEngine.Proofs.Scope.Path
import Mathlib.Data.List.Nodup
import Mathlib.Data.List.Pairwise
import Mathlib.Logic.Relation
/-!
# Forms with distinct ids

What a form has to keep to for its prefixed ids to be distinct: no id looks like a path, no two
elements of the controls document and the templates share one, a template puts its content in one
place at most, no binding takes over a name of the language, and no binding reaches itself.
-/

namespace FormEngine

/-- The static ids of the elements of a document. -/
def Document.staticIds (d : Document) : List String :=
  (d.descendants d.root).filterMap d.staticId?

namespace ComponentRegistry

/-- The controls document and the templates of its bindings. -/
def documents (r : ComponentRegistry) (controls : Document) : List Document :=
  controls :: r.bindings.filterMap (·.template)

/-- The template of one binding has an element, not inside an instance of data, that the other
binding is for. -/
def Uses (r : ComponentRegistry) (b b' : Binding) : Prop :=
  ∃ template ∈ b.template, ∃ n ∈ template.descendants template.root, n ≠ template.root ∧
    template.inData n = false ∧ ∃ name ∈ template.name? n, r.binding? name = some b'

end ComponentRegistry

/-- A template of nothing. -/
def emptyTemplate : Document :=
  .ofRoot { nsPrefix := "xbl", uri := Namespace.xbl, localName := "template" }

/-- The documents of a form are sound, and no id in them looks like a path. Content goes to one place at
most. -/
structure PlainIds (controls : Document) (r : ComponentRegistry) : Prop where
  checked : ∀ d ∈ r.documents controls, d.check = .ok ()
  /-- No id outside of an instance of data has a dollar sign. -/
  plain : ∀ d ∈ r.documents controls, ∀ n ∈ d.descendants d.root, d.inData n = false →
    ∀ id ∈ d.staticId? n, IsPlain id
  points : ∀ b ∈ r.bindings, ∀ template ∈ b.template, template.insertionPoints.length ≤ 1

/-- The ids of a form are distinct wherever they can meet. -/
structure DistinctIds (controls : Document) (r : ComponentRegistry) : Prop extends
    PlainIds controls r where
  nodup : ((r.documents controls).flatMap Document.staticIds).Nodup
  /-- No binding is for a control of the language, a model, an instance of data or an XBL name. -/
  selectors : ∀ b ∈ r.bindings, b.element.isBuiltinControl = false ∧
    b.element.is Namespace.xforms "model" = false ∧
    b.element.is Namespace.xforms "instance" = false ∧ b.element.uri ≠ Namespace.xbl
  acyclic : ∀ b, ¬Relation.TransGen r.Uses b b

namespace Document.HasTree

variable {d : Document} {t s : Tree}

theorem staticIds (h : d.HasTree t) : d.staticIds = t.staticIds := by
  rw [Document.staticIds, h.descendants_root, h.holds.filterMap_elements h.leaf]

theorem mem_descendants (h : d.HasTree t) (hs : s ∈ t.subtrees)
    (helement : s.kind.isElement = true) : s.id ∈ d.descendants d.root := by
  obtain ⟨p, hp⟩ := h.holds.subtree hs
  rw [h.mem_descendants_root, hp.isElement]
  exact ⟨Tree.ids_subset_of_mem_subtrees hs s.id_mem_ids, helement⟩

/-- Apart from the root, the elements have ids from below the root. -/
theorem mem_staticIds_of_ne_root (h : d.HasTree t) {n : NodeId}
    (hn : n ∈ d.descendants d.root) (hne : n ≠ d.root) {x : String}
    (hx : d.staticId? n = some x) : x ∈ t.children.flatMap Tree.staticIds := by
  obtain ⟨u, hu, rfl⟩ := Tree.exists_subtree_of_mem_ids (h.mem_descendants_root.1 hn).1
  obtain ⟨p, hp⟩ := h.holds.subtree hu
  rcases Tree.mem_subtrees.1 hu with rfl | ⟨c, hc, huc⟩
  · exact absurd h.root hne
  · rw [hp.staticId?] at hx
    exact List.mem_flatMap.2 ⟨c, hc, Tree.mem_staticIds.2 ⟨u, huc, hx⟩⟩

/-- What is walked is below the root. -/
theorem id_ne_root (h : d.HasTree t) (hs : s ∈ t.walked) : s.id ≠ d.root := by
  intro heq
  obtain ⟨c, hc, hsc⟩ := List.mem_flatMap.1 hs
  have hmem := Tree.ids_subset_of_mem_subtrees (Tree.exposed_subset_subtrees c hsc) s.id_mem_ids
  have hsome := (h.holds.of_mem_children hc).parent?_isSome hmem
  rw [heq, ← h.root, h.holds.parent?] at hsome
  contradiction

end Document.HasTree

namespace ComponentRegistry

variable {r : ComponentRegistry} {b b' : Binding} {name : QName} {template : Document}

theorem mem_of_binding? (h : r.binding? name = some b) : b ∈ r.bindings :=
  List.mem_of_find?_eq_some h

theorem mem_of_uses (h : r.Uses b b') : b' ∈ r.bindings := by
  obtain ⟨-, -, -, -, -, -, name, -, hbinding⟩ := h
  exact mem_of_binding? hbinding

/-- No binding reaches itself if no template has an instance in it. -/
theorem acyclic_of_forall (h : ∀ b ∈ r.bindings, ∀ template ∈ b.template,
    ∀ n ∈ template.descendants template.root, ∀ name ∈ template.name? n, r.isComponent name = false)
    (b : Binding) : ¬Relation.TransGen r.Uses b b := by
  intro hreaches
  obtain ⟨b', -, hlast⟩ := Relation.TransGen.tail'_iff.1 hreaches
  obtain ⟨b'', huses, -⟩ := Relation.TransGen.head'_iff.1 hreaches
  obtain ⟨template, htemplate, n, hn, -, -, name, hname, hbinding⟩ := huses
  have hfalse := h b (mem_of_uses hlast) template htemplate n hn name hname
  rw [isComponent, hbinding] at hfalse
  contradiction

theorem mem_of_reaches (hb : b ∈ r.bindings) (h : Relation.ReflTransGen r.Uses b b') :
    b' ∈ r.bindings := by
  cases h with
  | refl => exact hb
  | tail _ huses => exact mem_of_uses huses

theorem mem_documents (hb : b ∈ r.bindings) (h : template ∈ b.template) (controls : Document) :
    template ∈ r.documents controls :=
  List.mem_cons_of_mem _ (List.mem_filterMap.2 ⟨b, hb, h⟩)

theorem template?_eq_some (h : r.template? name = some template) :
    ∃ b, r.binding? name = some b ∧ template ∈ b.template := Option.bind_eq_some_iff.1 h

/-- What holds of all templates holds of the one for a name. -/
theorem of_template? {P : Document → Prop} (h : ∀ b ∈ r.bindings, ∀ d ∈ b.template, P d)
    (htemplate : r.template? name = some template) : P template := by
  obtain ⟨b, hbinding, hmem⟩ := template?_eq_some htemplate
  exact h b (mem_of_binding? hbinding) template hmem

/-- The templates of a form whose documents are checked are forests. -/
theorem isForest_of_template? {controls : Document}
    (hchecked : ∀ d ∈ r.documents controls, d.check = .ok ())
    (htemplate : r.template? name = some template) : template.IsForest :=
  of_template? (P := Document.IsForest)
    (fun _ hb d hd => Document.check_eq_ok_iff.1 (hchecked d (mem_documents hb hd controls)))
    htemplate

end ComponentRegistry

namespace PlainIds

variable {controls d template : Document} {r : ComponentRegistry} {t s : Tree}

theorem isForest (h : PlainIds controls r) (hd : d ∈ r.documents controls) : d.IsForest :=
  Document.check_eq_ok_iff.1 (h.checked d hd)

/-- The templates are forests with one insertion point at most. -/
theorem single (h : PlainIds controls r) (name : QName) (template : Document)
    (htemplate : r.template? name = some template) :
    template.IsForest ∧ template.insertionPoints.length ≤ 1 :=
  ComponentRegistry.of_template? (P := fun d => d.IsForest ∧ d.insertionPoints.length ≤ 1)
    (fun b hb d hd => ⟨h.isForest (ComponentRegistry.mem_documents hb hd controls), h.points b hb d hd⟩)
    htemplate

theorem isPlain_of_mem_walked (h : PlainIds controls r) (hd : d ∈ r.documents controls)
    (ht : d.HasTree t) (hs : s ∈ t.walked) {id : String} (hid : s.kind.staticId? = some id) :
    IsPlain id := by
  have hsub := Tree.walked_subset_subtrees t hs
  obtain ⟨p, hp⟩ := ht.holds.subtree hsub
  refine h.plain d hd s.id (ht.mem_descendants hsub (NodeKind.isElement_of_staticId? hid))
    (ht.holds.inData_of_mem_walked ht.root hs) id ?_
  rw [hp.staticId?]
  exact hid

end PlainIds

namespace DistinctIds

variable {controls d template template' : Document} {r : ComponentRegistry} {b b' : Binding}
  {t s : Tree}

theorem nodup_staticIds (h : DistinctIds controls r) (hd : d ∈ r.documents controls)
    (ht : d.HasTree t) : t.staticIds.Nodup := by
  rw [← ht.staticIds]
  exact (List.nodup_flatMap.1 h.nodup).1 d hd

theorem disjoint_controls (h : DistinctIds controls r) (hb : b ∈ r.bindings)
    (htemplate : template ∈ b.template) : controls.staticIds.Disjoint template.staticIds :=
  (List.pairwise_cons.1 (List.nodup_flatMap.1 h.nodup).2).1 template
    (List.mem_filterMap.2 ⟨b, hb, htemplate⟩)

theorem disjoint_templates (h : DistinctIds controls r) (hb : b ∈ r.bindings)
    (hb' : b' ∈ r.bindings) (hne : b ≠ b') (htemplate : template ∈ b.template)
    (htemplate' : template' ∈ b'.template) : template.staticIds.Disjoint template'.staticIds := by
  have hpairs := (List.pairwise_cons.1 (List.nodup_flatMap.1 h.nodup).2).2
  rw [List.pairwise_filterMap] at hpairs
  have hsymm : Std.Symm fun b b' : Binding => ∀ d, b.template = some d →
      ∀ d', b'.template = some d' → Function.onFun List.Disjoint Document.staticIds d d' :=
    ⟨fun _ _ hdisjoint d hd d' hd' x hx hx' => hdisjoint d' hd' d hd hx' hx⟩
  exact hpairs.forall hb hb' hne template htemplate template' htemplate'

/-- A binding uses the bindings of the elements that are walked in its template. -/
theorem uses_of_mem_walked (htemplate : template ∈ b.template) (ht : template.HasTree t)
    (hs : s ∈ t.walked) {name : QName} (hname : s.kind.name? = some name)
    (hbinding : r.binding? name = some b') : r.Uses b b' := by
  have hsub := Tree.walked_subset_subtrees t hs
  obtain ⟨p, hp⟩ := ht.holds.subtree hsub
  refine ⟨template, htemplate, s.id,
    ht.mem_descendants hsub (NodeKind.isElement_of_name? hname), ht.id_ne_root hs,
    ht.holds.inData_of_mem_walked ht.root hs, name, ?_, hbinding⟩
  rw [hp.name?]
  exact hname

/-- What a binding reaches by way of another one is not the binding itself. -/
theorem ne_of_reaches (h : DistinctIds controls r) (huses : r.Uses b b')
    {b'' : Binding} (hreach : Relation.ReflTransGen r.Uses b' b'') : b ≠ b'' := by
  rintro rfl
  exact h.acyclic b (Relation.TransGen.head' huses hreach)

end DistinctIds

end FormEngine
