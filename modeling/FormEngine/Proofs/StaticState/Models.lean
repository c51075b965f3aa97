import FormEngine.Proofs.Component.Built
import FormEngine.Proofs.Component.Links
import FormEngine.Proofs.Model.Registration
import FormEngine.Proofs.Scope.Reading
import FormEngine.StaticState.Analysis
import FormEngine.StaticState.Parts
/-!
# The models of an analysis

A form document is split into documents of its own, and in the analysis instances of components get
documents as well. All of them are forests if the form document is, so wherever a model is copied out
of, its copy is a forest with the element of the model at its root. A model is kept under its id, or
under an id that is made up if it has none, with the prefix of a scope of the form. No two models are
kept under one prefixed id.
-/

namespace FormEngine

/-! ## The documents that a form is split into -/

namespace Document

variable {d : Document} {n : NodeId}

/-- A forest with an `xf:model` at its root. -/
structure IsModel (d : Document) : Prop where
  forest : d.IsForest
  named : d.isNamed d.root Namespace.xforms "model" = true

theorem IsForest.isModel_subtreeDocument (h : d.IsForest)
    (hn : d.isNamed n Namespace.xforms "model" = true) : (d.subtreeDocument n).IsModel := by
  obtain ⟨hforest, hnamed⟩ := h.isNamed_subtreeDocument hn
  exact ⟨hforest, hnamed⟩

/-- The controls document of a forest is a forest. -/
theorem IsForest.controlsDocument (h : d.IsForest) : d.controlsDocument.IsForest := by
  let P : Document → Prop := fun e => e.IsForest ∧ e.isElement e.root = true
  have htop : P (ofRoot (.plain "controls")) := ⟨(sound_ofRoot _).forest, rfl⟩
  have hroot := List.foldlRecOn (motive := P) d.namespaces
    (fun (c : Document) e => c.declareNamespace e.1 e.2) htop fun c hc e _ => by
      have hsame := sameLinks_declareNamespace c e.1 e.2
      exact ⟨hc.1.of_sameLinks hsame, by rw [hsame.root, hsame.isElement]; exact hc.2⟩
  have hall : P d.controlsDocument :=
    List.foldlRecOn (motive := P) ((d.childElements d.root).filter fun c => (d.name? c).any isControlMarkup)
      (fun (dest : Document) c => d.copySubtree c dest dest.root) hroot fun e he c hc => by
        have hchild := List.mem_of_mem_filter (List.mem_of_mem_filter hc)
        obtain ⟨t, hg, hleaf⟩ :=
          h.exists_grafts_copySubtree (h.linksForest.child_lt _ c hchild) he.1.root_lt
        refine ⟨he.1.grafts hg he.2 hleaf, ?_⟩
        rw [hg.root, hg.isElement he.1.root_lt]
        exact he.2
  exact hall.1

end Document

/-- The documents that an analysis begins with are well formed. -/
structure FormParts.WellFormed (p : FormParts) : Prop where
  controls : p.controls.IsForest
  models : ∀ m ∈ p.models, m.IsModel
  components : p.components.Templated

/-- **A form document that is a forest is split into well-formed documents.** -/
theorem FormParts.wellFormed_ofDocument {d : Document} {config : EngineConfig} {p : FormParts}
    (hd : d.IsForest) (h : ofDocument d config = .ok p) : p.WellFormed := by
  rw [ofDocument] at h
  obtain ⟨metadata, -, h⟩ := ok_of_bind h
  obtain ⟨properties, -, h⟩ := ok_of_bind h
  obtain ⟨components, hcomponents, h⟩ := ok_of_bind h
  obtain rfl := Except.ok.inj h
  refine ⟨hd.controlsDocument, fun m hm => ?_, .ofDocument hd hcomponents⟩
  rcases List.mem_append.1 hm with hm | hm
  · obtain ⟨n, hn, rfl⟩ := List.mem_map.1 hm
    exact hd.isModel_subtreeDocument (List.mem_filter.1 hn).2
  · obtain ⟨n, hn, rfl⟩ := List.mem_map.1 hm
    have hnamed := (List.mem_filter.1 hn).2
    rw [Bool.and_eq_true] at hnamed
    exact hd.controlsDocument.isModel_subtreeDocument hnamed.1

/-! ## The scopes and the shadow trees -/

namespace ScopeTree

/-- The scopes are numbered in order, the top level first, and the shadow trees are forests. -/
structure Planted (r : ComponentRegistry) (t : ScopeTree) : Prop where
  components : t.components = r
  top : t.scope? 0 = some Scope.top
  numbered : t.scopes.map (·.id) = List.range t.size
  forest : ∀ e ∈ t.shadowTrees, e.2.document.IsForest

variable {controls : Document} {r : ComponentRegistry} {t : ScopeTree}

theorem Planted.id_eq (h : t.Planted r) {s : ScopeId} {scope : Scope}
    (hs : t.scope? s = some scope) : scope.id = s := by
  have hlt : s < t.size := (List.getElem?_eq_some_iff.1 hs).1
  have hid : (t.scopes.map (·.id))[s]? = some scope.id := by
    rw [List.getElem?_map, show t.scopes[s]? = _ from hs, Option.map_some]
  rw [h.numbered, List.getElem?_range hlt] at hid
  exact (Option.some.inj hid).symm

theorem Planted.document (h : t.Planted r) (hcontrols : controls.IsForest) {source : Source}
    {d : Document} (hd : t.document? controls source = some d) : d.IsForest := by
  cases source with
  | controls =>
    obtain rfl : controls = d := Option.some.inj hd
    exact hcontrols
  | shadow key =>
    obtain ⟨s, hs, rfl⟩ := Option.map_eq_some_iff.1 hd
    obtain ⟨before, after, hsplit, -⟩ := List.lookup_eq_some_iff.1 hs
    exact h.forest (key, s) (by rw [hsplit]; simp)

end ScopeTree

/-- **The shadow trees of a form are forests** if its controls document and its templates are. -/
theorem planted_resolveScopes {controls : Document} {r : ComponentRegistry} {t : ScopeTree}
    (hcontrols : controls.IsForest) (hr : r.Templated) (h : resolveScopes controls r = .ok t) :
    t.Planted r := by
  refine keeps_resolveScopes h ⟨rfl, rfl, rfl, List.forall_mem_nil _⟩ (fun t s ids ht => ?_)
    fun v d id shadow henters hv => ?_
  · rw [ScopeTree.indexAll_eq]
    exact ⟨ht.components, ht.top, ht.numbered, ht.forest⟩
  · obtain ⟨name, template, hname, htemplate, -⟩ := ComponentRegistry.instantiate_spec henters.shadow
    rw [hv.components] at htemplate
    have hlinks := ComponentRegistry.links_of_instantiate henters.shadow hname
      (by rw [hv.components]; exact htemplate) (hv.document hcontrols henters.document)
      (hr.isTemplate htemplate).forest
    rw [ScopeTree.enter_eq, ScopeTree.indexAll_eq]
    refine ⟨hv.components, ?_, ?_, fun e he => ?_⟩
    · exact (List.getElem?_append_left (List.getElem?_eq_some_iff.1 hv.top).1).trans hv.top
    · show List.map Scope.id (v.tree.scopes ++ [_]) = List.range (v.tree.scopes ++ [_]).length
      rw [List.map_append, List.length_append, List.length_singleton, List.range_succ]
      exact congrArg (· ++ [_]) hv.numbered
    · rcases Json.mem_assign he with rfl | he
      · exact hlinks.forest
      · exact hv.forest e he

/-! ## The models -/

/-- What is known of a model that is kept: its document, its scope, and the id in its prefixed id,
which is the id of its element if that has one. -/
structure Model.Sits (t : ScopeTree) (m : Model) : Prop where
  document : m.document.IsModel
  scope : ∃ scope, t.scope? m.scope = some scope ∧ m.prefixedId = scope.prefixedId m.staticId
  staticId : ∀ id, m.document.staticId? m.document.root = some id → m.staticId = id

/-- The models are kept as they should be, each under a prefixed id of its own. -/
structure ModelIndex.Sound (t : ScopeTree) (x : ModelIndex) : Prop where
  sits : ∀ m ∈ x.models, m.Sits t
  nodup : (x.models.map (·.prefixedId)).Nodup

theorem ModelIndex.Sound.add {t : ScopeTree} {x : ModelIndex} (h : x.Sound t) {scope : Scope}
    (hscope : t.scope? scope.id = some scope) {d : Document} (hd : d.IsModel) :
    (x.add scope d).Sound t := by
  have hsits : (x.modelOf scope d).Sits t := by
    refine ⟨hd, ⟨scope, hscope, rfl⟩, ?_⟩
    intro id hid
    show (d.staticId? d.root).getD x.fallbackId = id
    rw [show d.staticId? d.root = some id from hid, Option.getD_some]
  exact ⟨forall_models_add h.sits hsits, nodup_models_add h.nodup scope d⟩

/-- **The models of a form are sound.** -/
theorem Analysis.sound_modelIndex {r : ComponentRegistry} {t : ScopeTree} (ht : t.Planted r)
    {documents : List Document} (hdocuments : ∀ d ∈ documents, d.IsModel) :
    (modelIndex t documents).Sound t := by
  have htop : (documents.foldl (fun x d => x.add Scope.top d) ({} : ModelIndex)).Sound t :=
    List.foldlRecOn (motive := ModelIndex.Sound t) documents _ ⟨List.forall_mem_nil _, .nil⟩
      fun x hx d hd => hx.add ht.top (hdocuments d hd)
  refine List.foldlRecOn (motive := ModelIndex.Sound t) t.shadowTrees _ htop fun x hx e he => ?_
  cases hscope : t.scope? e.2.innerScope with
  | none => exact hx
  | some scope =>
    have hid : t.scope? scope.id = some scope := by rw [ht.id_eq hscope, hscope]
    refine List.foldlRecOn (motive := ModelIndex.Sound t) (templateModels e.2) _ hx fun y hy n hn => ?_
    have hnamed := (List.mem_filter.1 hn).2
    rw [Bool.and_eq_true, Bool.and_eq_true] at hnamed
    exact hy.add hid ((ht.forest e he).isModel_subtreeDocument hnamed.1.1)

end FormEngine
