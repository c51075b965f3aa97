import FormEngine.Event.Handler
import FormEngine.Proofs.Scope.Template
import FormEngine.Query
/-!
# Elements that listen where they stand

An action that names an event and no observer listens on the element around it. Whether it does is
read off the way up from it: its parent has an id, and nothing above it is a model, an instance of
data or markup of XBL. In a shadow tree an action of the template has the way up that it was written
with, so it listens in each instance as it does in the template. What is written in an insertion
point is not in the shadow tree at all, and an insertion point is markup of XBL.
-/

namespace FormEngine

/-- An action that listens on its parent, which has the id `e`. -/
structure Document.Listens (d : Document) (n : NodeId) (e : String) : Prop where
  reached : n ∈ d.descendants d.root
  action : ∃ name, d.name? n = some name ∧ name.isAction = true
  event : (d.attribute? n Namespace.events "event").isSome = true
  /-- It names no observer. -/
  observer : d.attribute? n Namespace.events "observer" = none
  parent : (d.parent? n).bind d.staticId? = some e
  model : d.hasAncestorNamed n Namespace.xforms "model" = false
  data : d.inInstance n = false
  /-- No definition is around it but the document, which is one if it is a template. -/
  definition : ∀ a ∈ d.ancestors n, a ≠ d.root → ∀ name ∈ d.name? a, name.uri ≠ Namespace.xbl

/-- No action is an element of XBL. -/
theorem QName.uri_of_isAction {name : QName} (h : name.isAction = true) :
    name.uri ≠ Namespace.xbl := by
  intro hxbl
  rw [isAction, hxbl] at h
  simp [Namespace.xbl, Namespace.xforms, Namespace.xxforms] at h

namespace Document

variable {d d' : Document} {n n' : NodeId}

theorem attribute?_of_kind? (h : d.kind? n = d'.kind? n') (uri localName : String) :
    d.attribute? n uri localName = d'.attribute? n' uri localName := by
  rw [attribute?, attribute?, attributes_eq, attributes_eq, h]

/-- The names above a node are told by the way up and the kinds of the nodes on it. -/
theorem hasAncestorNamed_congr (hup : d.ancestors n = d'.ancestors n')
    (hkinds : ∀ a ∈ d'.ancestors n', d.kind? a = d'.kind? a) (uri localName : String) :
    d.hasAncestorNamed n uri localName = d'.hasAncestorNamed n' uri localName := by
  rw [hasAncestorNamed, hasAncestorNamed, hup, Bool.eq_iff_iff, List.any_eq_true, List.any_eq_true]
  refine exists_congr fun a => and_congr_right fun ha => ?_
  rw [isNamed, isNamed, name?_of_kind? (hkinds a ha)]

/-- An element that listens is in the document. -/
theorem Listens.lt {e : String} (h : d.Listens n e) : n < d.size :=
  lt_of_mem_descendantsWithin h.reached

/-- No insertion point is above an element that listens, nor is it one. -/
theorem Listens.eq_root_of_point {e : String} (h : d.Listens n e) {a : NodeId}
    (ha : a ∈ n :: d.ancestors n) (hpoint : a ∈ d.insertionPoints) : a = d.root := by
  obtain ⟨name, hname, hxbl⟩ : ∃ name, d.name? a = some name ∧ name.uri = Namespace.xbl := by
    have hnamed := (List.mem_filter.1 hpoint).2
    rw [isNamed, Option.any_eq_true] at hnamed
    obtain ⟨name, hname, his⟩ := hnamed
    rw [QName.is_iff] at his
    exact ⟨name, hname, his.1⟩
  by_contra hne
  rcases List.mem_cons.1 ha with rfl | ha
  · obtain ⟨name', hname', haction⟩ := h.action
    obtain rfl := Option.some.inj (hname.symm.trans hname')
    exact QName.uri_of_isAction haction hxbl
  · exact h.definition a ha hne name hname hxbl

end Document

/-- **An action of the template listens in the shadow tree** as it does in the template. -/
theorem ShadowTree.InstanceOf.listens {s : ShadowTree} {r : ComponentRegistry} {template : Document}
    (h : s.InstanceOf r template) (hforest : template.IsForest) {n : NodeId} {e : String}
    (hn : template.Listens n e) : s.document.Listens n e := by
  have hlinks := h.links hforest
  have hkinds : ∀ {m}, m < template.size → s.document.kind? m = template.kind? m :=
    fun hm => h.kind?_eq hforest hm
  have hfree : ∀ a ∈ n :: template.ancestors n, a ∈ template.insertionPoints → a = template.root :=
    fun a ha hpoint => hn.eq_root_of_point ha hpoint
  have hup : s.document.ancestors n = template.ancestors n :=
    hlinks.ancestors_eq hforest hn.lt hfree
  have hparent : s.document.parent? n = template.parent? n :=
    hlinks.parent?_eq hforest hn.lt (hfree n List.mem_cons_self)
  have habove : ∀ a ∈ template.ancestors n, s.document.kind? a = template.kind? a :=
    fun a ha => hkinds (hforest.lt_of_mem_ancestorsWithin ha)
  have hroot : s.document.root = template.root := hlinks.root
  refine ⟨?_, ?_, ?_, ?_, ?_, ?_, ?_, ?_⟩
  · have hreached := hforest.mem_descendants_root.1 hn.reached
    refine hlinks.forest.mem_descendants_root.2 ?_
    rw [Document.isElement_eq, hkinds hn.lt, ← Document.isElement_eq, hroot, hup]
    exact hreached
  · rw [Document.name?_of_kind? (hkinds hn.lt)]
    exact hn.action
  · rw [Document.attribute?_of_kind? (hkinds hn.lt)]
    exact hn.event
  · rw [Document.attribute?_of_kind? (hkinds hn.lt)]
    exact hn.observer
  · obtain ⟨p, hp, hid⟩ := Option.bind_eq_some_iff.1 hn.parent
    rw [hparent, hp, Option.bind_some, Document.staticId?_of_kind? (hkinds (hforest.parent_lt hp))]
    exact hid
  · rw [Document.hasAncestorNamed_congr hup habove]
    exact hn.model
  · rw [Document.inInstance, Document.hasAncestorNamed_congr hup habove]
    exact hn.data
  · intro a ha hne name hname
    rw [hup] at ha
    rw [Document.name?_of_kind? (habove a ha)] at hname
    exact hn.definition a ha (hroot ▸ hne) name hname

end FormEngine
