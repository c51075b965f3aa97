import FormEngine.Proofs.Component.Links
import FormEngine.Proofs.Scope.Written
/-!
# What a shadow tree has from its template

The ledger of a walk says of each node of a shadow tree where it was written. For the nodes that did
not come in as content this is a template, one and the same for all of them, at their own address:
the template that is bound to the element for which the shadow tree was made. It holds of every walk
with a ledger, in whatever order the walk comes to the instances.
-/

namespace FormEngine

namespace ShadowTree

variable {r : ComponentRegistry} {template : Document} {s : ShadowTree} {n : NodeId}

/-- The shadow tree was made from the template, for an element of a sound document. -/
def InstanceOf (s : ShadowTree) (r : ComponentRegistry) (template : Document) : Prop :=
  ∃ source bound key name, source.IsForest ∧ source.name? bound = some name ∧
    r.template? name = some template ∧
    r.instantiate source bound key s.outerScope s.innerScope = .ok s

/-- The origins of a shadow tree have its own nodes in its template. -/
def Recalls (s : ShadowTree) (r : ComponentRegistry) (f : NodeId → Origin) : Prop :=
  ∃ template, s.InstanceOf r template ∧ ∀ n, s.isOuter n = false →
    f n = { document := template, node := n, home := s.innerScope, handedOn := false }

namespace InstanceOf

variable (h : s.InstanceOf r template)

include h

theorem template? : ∃ name, r.template? name = some template := by
  obtain ⟨-, -, -, name, -, -, htemplate, -⟩ := h
  exact ⟨name, htemplate⟩

variable (hforest : template.IsForest)

include hforest

theorem links :
    Expansion.Links template template.insertionPoints ⟨s.document, s.outerNodes⟩ := by
  obtain ⟨source, bound, key, name, hsource, hname, htemplate, hs⟩ := h
  exact r.links_of_instantiate hs hname htemplate hsource hforest

/-- The nodes of the template keep their kinds. -/
theorem kind?_eq (hn : n < template.size) : s.document.kind? n = template.kind? n := by
  obtain ⟨source, bound, key, name, hsource, hname, htemplate, hs⟩ := h
  exact (r.expands_of_instantiate hs hname htemplate hsource.grounded hforest.grounded).kinds n hn

/-- They are no content. -/
theorem isOuter_eq_false (hn : n < template.size) : s.isOuter n = false := by
  obtain ⟨source, bound, key, name, hsource, hname, htemplate, hs⟩ := h
  have hexpands :=
    r.expands_of_instantiate hs hname htemplate hsource.grounded hforest.grounded
  rw [← Bool.not_eq_true, isOuter_iff, hexpands.outer]
  exact fun houter => absurd hn (Nat.not_lt.2 houter.1)

end InstanceOf

end ShadowTree

/-! ## What a walk keeps -/

/-- **A walk with its ledger keeps what meeting an element and entering an instance keep.** -/
theorem traceElement_keeps {controls : Document} {P : ScopeTree × Ledger → Prop}
    (hmeet : ∀ t l source d n scope, P (t, l) →
      P (t.indexAll scope (d.staticId? n).toList, l.meet controls source d n scope))
    (henter : ∀ t l source d n scope key shadow, P (t, l) → t.document? controls source = some d →
      t.components.instantiate d n key scope t.size = .ok shadow →
      P (t.enter d n scope key shadow, l.enter controls t source d n scope key shadow))
    {fuel : Nat} {source : Source} {n : NodeId} {scope : ScopeId} {p q : ScopeTree × Ledger}
    (h : traceElement controls fuel source n scope p = .ok q) (hp : P p) : P q := by
  induction fuel generalizing source n scope p q with
  | zero => contradiction
  | succ fuel ih =>
    obtain ⟨t, l⟩ := p
    have hall : ∀ {source scope ns p}, traceAll controls fuel source scope ns p = .ok q → P p →
        P q := by
      intro source scope ns p hall hp
      refine foldlM_invariant hall hp fun c _ p p' hp hc => ?_
      cases hs : p.1.scopeOfChild? scope c source with
      | none =>
        rw [hs] at hc
        contradiction
      | some s =>
        rw [hs] at hc
        exact ih hc hp
    cases traces_of_traceElement h with
    | passed => exact hp
    | data hd hname => exact hmeet t l source _ n scope hp
    | @component d name t₁ key shadow _ hd hname ht₁ hshadow hinner =>
      subst ht₁
      have hd' := (Ledger.Tracks.sources_indexAll (n := n) t controls scope
        (d.staticId? n).toList source).1.trans hd
      exact hall hinner (henter _ _ source d n scope key shadow
        (hmeet t l source d n scope hp) hd' hshadow)
    | plain hd hname hbelow => exact hall hbelow (hmeet t l source _ n scope hp)

/-- The ledger recalls the template of every shadow tree. -/
structure Ledger.Recalls (r : ComponentRegistry) (p : ScopeTree × Ledger) : Prop where
  components : p.1.components = r
  shadows : List.Forall₂ (fun a b => a.1 = b.1 ∧ a.2.Recalls r b.2) p.1.shadowTrees p.2.origins

namespace Ledger.Recalls

variable {controls : Document} {r : ComponentRegistry} {t : ScopeTree} {l : Ledger}
  {source : Source} {d : Document}

theorem meet (h : Recalls r (t, l)) (n : NodeId) (scope : ScopeId) :
    Recalls r (t.indexAll scope (d.staticId? n).toList, l.meet controls source d n scope) := by
  rw [ScopeTree.indexAll_eq]
  exact ⟨h.components, h.shadows⟩

variable (hcontrols : controls.IsForest)
  (htemplates : ∀ name template, r.template? name = some template → template.IsForest)

include hcontrols htemplates

/-- The documents of a walk are sound. -/
theorem isForest (h : Recalls r (t, l)) (hd : t.document? controls source = some d) :
    d.IsForest := by
  cases source with
  | controls =>
    obtain rfl : controls = d := Option.some.inj hd
    exact hcontrols
  | shadow key =>
    obtain ⟨s, hs, rfl⟩ := Option.map_eq_some_iff.1 hd
    obtain ⟨f, -, template, hinstance, -⟩ :=
      exists_lookup_of_forall₂ (R := fun s f => ShadowTree.Recalls s r f) h.shadows hs
    obtain ⟨name, htemplate⟩ := hinstance.template?
    exact (hinstance.links (htemplates name template htemplate)).forest

theorem enter (h : Recalls r (t, l)) (hd : t.document? controls source = some d) {n : NodeId}
    {scope : ScopeId} {key : String} {shadow : ShadowTree}
    (hshadow : t.components.instantiate d n key scope t.size = .ok shadow) :
    Recalls r (t.enter d n scope key shadow, l.enter controls t source d n scope key shadow) := by
  obtain ⟨name, template, hname, htemplate, hinner, houter, -⟩ :=
    ComponentRegistry.instantiate_spec hshadow
  have hlookup : ((d.name? n).bind t.components.template?).getD d = template := by
    rw [hname, Option.bind_some, htemplate, Option.getD_some]
  have hrecalls : shadow.Recalls r (shadow.origins template
      ((d.contentElements n).map (l.taken controls t source n))) := by
    refine ⟨template, ⟨d, n, key, name, ?_, hname, ?_, ?_⟩, fun m hm => ?_⟩
    · exact h.isForest hcontrols htemplates hd
    · rw [← h.components]
      exact htemplate
    · rw [← h.components, hinner, houter]
      exact hshadow
    · exact ShadowTree.origins_of_inner hm
  refine ⟨?_, ?_⟩
  · rw [ScopeTree.enter_eq]
    exact h.components
  · rw [ScopeTree.enter_eq, Ledger.enter, hlookup]
    exact forall₂_assign (R := fun s f => ShadowTree.Recalls s r f) h.shadows hrecalls

end Ledger.Recalls

/-- **The ledger of the whole walk recalls the template of every shadow tree.** -/
theorem recalls_traceScopes {controls : Document} {r : ComponentRegistry}
    (hcontrols : controls.IsForest)
    (htemplates : ∀ name template, r.template? name = some template → template.IsForest)
    {p : ScopeTree × Ledger} (h : traceScopes controls r = .ok p) : Ledger.Recalls r p := by
  refine foldlM_invariant (P := Ledger.Recalls r) h ⟨rfl, .nil⟩ fun c _ p p' hp hstep => ?_
  refine traceElement_keeps ?_ ?_ hstep hp
  · exact fun t l source d n scope hp => hp.meet n scope
  · exact fun t l source d n scope key shadow hp hd hshadow =>
      hp.enter hcontrols htemplates hd hshadow

end FormEngine
