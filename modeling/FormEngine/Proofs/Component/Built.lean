import FormEngine.Proofs.Component.Expansion
import FormEngine.Proofs.Document.Built
import FormEngine.Proofs.Document.StaticIds
import FormEngine.Proofs.Outcome
/-!
# Registries that can be built

A registry starts empty or with the bindings of a document, and is built on by registering bindings
of other registries, under any name, and by dropping the templates. A template is only ever made
from an `xbl:template` element of a document, so every template of such a registry is a forest with
an element of that name at its root.
-/

namespace FormEngine

namespace Document

variable {d d' : Document} {n p : NodeId} {t : Tree}

/-! ## The name at the root of a copy -/

theorem name?_setAttribute (d : Document) (n : NodeId) (name : QName) (value : String) (m : NodeId) :
    (d.setAttribute n name value).name? m = d.name? m := by
  rw [name?, name?, node?_setAttribute]
  cases d.node? m with
  | none => simp
  | some node =>
    split
    · cases hkind : node.kind <;> simp [hkind, NodeKind.name?]
    · rfl

theorem Grafts.name? (hg : d.Grafts d' p t) (hn : n < d.size) : d'.name? n = d.name? n := by
  rw [Document.name?, hg.old n hn, Document.name?]
  cases d.node? n with
  | none => rfl
  | some node => by_cases hnp : n = p <;> simp [hnp, Node.addChild]

/-- **The document of the subtree of an element is a forest** with the element at its root, whatever
the namespace table is. -/
theorem IsForest.subtreeDocument (h : d.IsForest) {name : QName} (hname : d.name? n = some name) :
    (d.subtreeDocument n).IsForest ∧ (d.subtreeDocument n).name? (d.subtreeDocument n).root = some name := by
  let P : Document → Prop := fun e => e.IsForest ∧ e.name? e.root = some name
  have htop : P { ofRoot ((d.name? n).getD (.plain "text")) with namespaces := d.namespaces } := by
    rw [hname]
    exact ⟨isForest_ofRoot _ _, rfl⟩
  have hroot := List.foldlRecOn (motive := P) (d.attributes n)
    (fun (e : Document) a => e.setAttribute e.root a.name a.value) htop
    fun e he a _ => ⟨he.1.of_sameLinks (sameLinks_setAttribute e e.root a.name a.value),
      (name?_setAttribute e e.root a.name a.value e.root).trans he.2⟩
  exact List.foldlRecOn (motive := P) (d.children n)
    (fun (e : Document) c => d.copySubtree c e e.root) hroot fun e he c hc => by
      obtain ⟨t, hg, hleaf⟩ :=
        h.exists_grafts_copySubtree (h.linksForest.child_lt n c hc) he.1.root_lt
      refine ⟨he.1.grafts hg (isElement_of_name? he.2) hleaf, ?_⟩
      rw [hg.root, hg.name? he.1.root_lt]
      exact he.2

/-- It has the name of the element. -/
theorem IsForest.isNamed_subtreeDocument (h : d.IsForest) {uri localName : String}
    (hn : d.isNamed n uri localName = true) :
    (d.subtreeDocument n).IsForest ∧
      (d.subtreeDocument n).isNamed (d.subtreeDocument n).root uri localName = true := by
  rw [isNamed] at hn
  obtain ⟨name, hname, his⟩ := (Option.any_eq_true _ _).1 hn
  obtain ⟨hforest, hroot⟩ := h.subtreeDocument hname
  refine ⟨hforest, ?_⟩
  rw [isNamed, hroot]
  exact his

end Document

/-! ## Templates -/

/-- A forest with an `xbl:template` at its root. -/
structure Document.IsTemplate (d : Document) : Prop where
  forest : d.IsForest
  named : d.isNamed d.root Namespace.xbl "template" = true

/-- What the first child of a name is has that name. -/
theorem Document.isNamed_of_firstChildNamed? {d : Document} {n c : NodeId} {uri localName : String}
    (h : d.firstChildNamed? n uri localName = some c) : d.isNamed c uri localName = true :=
  List.find?_some (p := fun c => d.isNamed c uri localName) h

/-- The document of an `xbl:template` is a template. -/
theorem Document.IsForest.isTemplate_subtreeDocument {d : Document} (h : d.IsForest) {n : NodeId}
    (hn : d.isNamed n Namespace.xbl "template" = true) : (d.subtreeDocument n).IsTemplate := by
  obtain ⟨hforest, hnamed⟩ := h.isNamed_subtreeDocument hn
  exact ⟨hforest, hnamed⟩

namespace ComponentRegistry

/-- The registries that can be built. A binding of another registry may be registered under any name
and any id, while its template is what it is. -/
inductive Built : ComponentRegistry → Prop
  | empty : Built {}
  | ofDocument {d : Document} {r : ComponentRegistry} (hd : d.Built) (h : ofDocument d = .ok r) :
      Built r
  | register {r other : ComponentRegistry} {b : Binding} (hr : Built r) (hother : Built other)
      (hb : b ∈ other.bindings) (element : QName) (bindingId : Option String) :
      Built (r.register { b with element, bindingId })
  | freeTemplates {r : ComponentRegistry} (hr : Built r) : Built r.freeTemplates

/-- The bindings of the registry have templates, if they have any, that are well formed. -/
def Templated (r : ComponentRegistry) : Prop :=
  ∀ b ∈ r.bindings, ∀ template, b.template = some template → template.IsTemplate

namespace Templated

variable {r : ComponentRegistry} {b : Binding}

theorem empty : Templated {} := by
  intro b hb
  contradiction

theorem register (h : r.Templated)
    (hb : ∀ template, b.template = some template → template.IsTemplate) :
    (r.register b).Templated := by
  rw [ComponentRegistry.register]
  split
  · exact h
  · intro c hc
    rcases List.mem_append.1 hc with hc | hc
    · exact h c hc
    · rw [List.mem_singleton] at hc
      exact hc ▸ hb

theorem freeTemplates (r : ComponentRegistry) : r.freeTemplates.Templated := by
  intro b hb template htemplate
  obtain ⟨c, -, rfl⟩ := List.mem_map.1 hb
  contradiction

/-- The binding of an element has the document of its `xbl:template` for its template. -/
theorem of_bindingOfElement {d : Document} (hd : d.IsForest) {n : NodeId}
    (h : bindingOfElement d n = .ok b) :
    ∀ template, b.template = some template → template.IsTemplate := by
  rw [bindingOfElement] at h
  cases hselector : d.attr? n "element" with
  | none =>
    rw [hselector] at h
    contradiction
  | some selector =>
    rw [hselector] at h
    obtain ⟨element, -, h⟩ := ok_of_bind h
    cases hchild : d.firstChildNamed? n Namespace.xbl "template" with
    | none =>
      rw [hchild] at h
      contradiction
    | some c =>
      rw [hchild] at h
      obtain rfl := Except.ok.inj h
      intro template htemplate
      obtain rfl := Option.some.inj htemplate
      exact hd.isTemplate_subtreeDocument (Document.isNamed_of_firstChildNamed? hchild)

theorem ofDocument {d : Document} (hd : d.IsForest) (h : ofDocument d = .ok r) : r.Templated := by
  refine foldlM_invariant h empty fun n _ s s' hs hstep => ?_
  obtain ⟨b, hb, hregister⟩ := ok_of_bind hstep
  obtain rfl := Except.ok.inj hregister
  exact hs.register (of_bindingOfElement hd hb)

end Templated

/-- **Every template of a registry that was built is well formed.** -/
theorem Built.templated {r : ComponentRegistry} (h : r.Built) : r.Templated := by
  induction h with
  | empty => exact .empty
  | ofDocument hd h => exact .ofDocument hd.sound.forest h
  | @register r other b _ _ hb element bindingId ihr ihother => exact ihr.register (ihother b hb)
  | freeTemplates => exact .freeTemplates _

theorem Templated.isTemplate {r : ComponentRegistry} (h : r.Templated) {name : QName}
    {template : Document} (htemplate : r.template? name = some template) : template.IsTemplate := by
  obtain ⟨b, hb, htemplate⟩ := Option.bind_eq_some_iff.1 htemplate
  exact h b (List.mem_of_find?_eq_some hb) template htemplate

end ComponentRegistry

end FormEngine
