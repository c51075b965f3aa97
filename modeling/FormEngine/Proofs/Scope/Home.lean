import FormEngine.Proofs.Control.Place
import FormEngine.Proofs.Scope.Written
/-!
# The scope of an element and the scope that it was written for

The law over whole forms. It covers what the resolver indexes, entry by entry, and the controls of
the control tree, which read their scope off the finished shadow trees. An element resolves in the
scope that it was written for exactly when it has not been handed on: content that is passed on to
an instance inside the shadow tree takes on the scope of that instance.
-/

namespace FormEngine

/-- The origin of an element of the finished form. -/
def Ledger.originAt (l : Ledger) (controls : Document) (e : ElementRef) : Origin :=
  match e.tree with
  | .controls => Origin.top controls e.node
  | .shadow i => ((l.origins[i]?).map fun entry => entry.2 e.node).getD (Origin.top controls e.node)

theorem getElem?_of_forall₂ {α β : Type} {R : α → β → Prop} {xs : List α} {ys : List β}
    (h : List.Forall₂ R xs ys) (i : Nat) :
    (xs[i]? = none ∧ ys[i]? = none) ∨ ∃ a b, xs[i]? = some a ∧ ys[i]? = some b ∧ R a b := by
  induction h generalizing i with
  | nil => exact .inl ⟨rfl, rfl⟩
  | cons hab _ ih =>
    cases i with
    | zero => exact .inr ⟨_, _, rfl, rfl, hab⟩
    | succ i => exact ih i

namespace Ledger.Tracks

variable {controls : Document} {components : ComponentRegistry} {l : Ledger} {t : ScopeTree}

/-- An element of the finished form resolves as its origin allows for. -/
theorem resolves_originAt (h : l.Tracks components t) (e : ElementRef) :
    (l.originAt controls e).ResolvesIn (Form.scopeOf ⟨controls, t⟩ e) ∧
      Form.scopeOf ⟨controls, t⟩ e < t.size := by
  obtain ⟨tree, n⟩ := e
  cases tree with
  | controls => exact ⟨rfl, h.size⟩
  | shadow i =>
    rw [Form.scopeOf, Form.shadow?, ScopeTree.shadowTreeAt?, originAt]
    rcases getElem?_of_forall₂ h.shadows i with ⟨ht, hl⟩ | ⟨a, b, ht, hl, -, htraced, hlt⟩
    · simp only [ht, hl]
      exact ⟨rfl, h.size⟩
    · simp only [ht, hl, Option.map_some, Option.getD_some]
      refine ⟨htraced.resolves n, ?_⟩
      rw [ShadowTree.scopeOf]
      split
      · exact Nat.lt_trans htraced.scopes hlt
      · exact hlt

/-- An element of the finished form is the one at its origin. -/
theorem matches_originAt (h : l.Tracks components t) {e : ElementRef}
    (helement : (Form.document ⟨controls, t⟩ e.tree).isElement e.node = true) :
    (l.originAt controls e).Matches ((Form.document ⟨controls, t⟩ e.tree).kind? e.node) := by
  obtain ⟨tree, n⟩ := e
  cases tree with
  | controls => rfl
  | shadow i =>
    rw [Form.document, Form.shadow?, ScopeTree.shadowTreeAt?] at helement ⊢
    rw [originAt]
    rcases getElem?_of_forall₂ h.shadows i with ⟨ht, hl⟩ | ⟨a, b, ht, hl, -, htraced, -⟩
    · simp only [ht, hl]
      rfl
    · simp only [ht, hl, Option.map_some, Option.getD_some] at helement ⊢
      exact htraced.matching n helement

end Ledger.Tracks

/-- **An element resolves in the scope that it was written for if and only if it has not been
handed on.** Every entry of the index belongs to an element that was met, the element is the one at
its origin, and it is indexed under the full prefix of the scope in which it resolves, followed by
its static id; so are the controls recorded. -/
theorem scope_eq_home_iff {controls : Document} {components : ComponentRegistry}
    (hcontrols : controls.check = .ok ())
    (htemplates : ∀ b ∈ components.bindings, ∀ template ∈ b.template, template.check = .ok ())
    {t : ScopeTree} (h : resolveScopes controls components = .ok t) :
    ∃ l, traceScopes controls components = .ok (t, l) ∧
      (∀ e ∈ t.resolution, ∃ s ∈ l.sightings, s.Entry t e) ∧
      (∀ s ∈ l.sightings,
        s.origin.document.name? s.origin.node = s.name ∧
        s.origin.document.staticId? s.origin.node = s.staticId ∧
        (s.scope = s.origin.home ↔ s.origin.handedOn = false) ∧
        ∀ id, s.staticId = some id → ∃ scope, t.scope? s.scope = some scope ∧
          (scope.prefixedId id, s.scope) ∈ t.resolution) ∧
      ∀ tree warnings, buildControlTree ⟨controls, t⟩ = .ok (tree, warnings) →
        ∀ c ∈ tree.controls, ∃ scope, t.scope? c.scope = some scope ∧
          c.prefixedId = scope.prefixedId c.staticId ∧
          (l.originAt controls c.element).document.staticId?
            (l.originAt controls c.element).node = some c.staticId ∧
          (c.scope = (l.originAt controls c.element).home ↔
            (l.originAt controls c.element).handedOn = false) := by
  have hgrounded := (Document.check_eq_ok_iff.1 hcontrols).grounded
  have htemplate : ∀ name template, components.template? name = some template →
      template.Grounded := by
    intro name template hlookup
    obtain ⟨b, hb, htemplate⟩ := Option.bind_eq_some_iff.1 hlookup
    have hcheck := htemplates b (List.mem_of_find?_eq_some hb) template htemplate
    exact (Document.check_eq_ok_iff.1 hcheck).grounded
  obtain ⟨l, hl⟩ := exists_traceScopes h
  have htracks := tracks_traceScopes hgrounded htemplate hl
  refine ⟨l, hl, htracks.entries, ?_, ?_⟩
  · intro s hs
    have hsound := htracks.sightings s hs
    exact ⟨hsound.name, hsound.staticId, hsound.resolves.eq_home_iff, hsound.indexed⟩
  · intro tree warnings hbuild c hc
    obtain ⟨-, -, -, hplaced⟩ := places_buildControlTree hbuild
    have hplace : c.place.In ⟨controls, t⟩ :=
      hplaced c.place (List.mem_map_of_mem (Array.mem_toList_iff.2 hc))
    have hscope : c.scope = Form.scopeOf ⟨controls, t⟩ c.element := hplace.scope
    have hid : (Form.document ⟨controls, t⟩ c.element.tree).staticId? c.element.node =
        some c.staticId := hplace.staticId
    have hprefixed : c.prefixedId = Form.prefixOf ⟨controls, t⟩ c.element ++ c.staticId :=
      hplace.prefixedId
    obtain ⟨hresolves, hlt⟩ := htracks.resolves_originAt c.element
    rw [← hscope] at hresolves hlt
    obtain ⟨scope, hsc⟩ := ScopeTree.scope?_of_lt hlt
    refine ⟨scope, hsc, ?_, ?_, hresolves.eq_home_iff⟩
    · rw [hprefixed, Form.prefixOf, ← hscope, hsc]
      rfl
    · -- a control has an id, so it is an element, and the id is read off at its origin
      have helement := Document.isElement_of_staticId? hid
      rw [← hid]
      exact Document.staticId?_of_kind? (htracks.matches_originAt helement)

/-! ## Content that is passed on -/

/-- A template that puts its content into an instance of its own. -/
def relayTemplate : Document :=
  { nodes :=
      #[{ kind := .element { nsPrefix := "xbl", uri := Namespace.xbl, localName := "template" } []
          children := [1] },
        { kind := .element { nsPrefix := "fr", uri := "fr", localName := "inner" }
            [⟨.plain "id", "b"⟩]
          parent := some 0, children := [2] },
        { kind := .element { nsPrefix := "xbl", uri := Namespace.xbl, localName := "content" } []
          parent := some 1 }]
    root := 0 }

/-- A template of its content alone. -/
def frameTemplate : Document :=
  { nodes :=
      #[{ kind := .element { nsPrefix := "xbl", uri := Namespace.xbl, localName := "template" } []
          children := [1] },
        { kind := .element { nsPrefix := "xbl", uri := Namespace.xbl, localName := "content" } []
          parent := some 0 }]
    root := 0 }

def relayComponents : ComponentRegistry :=
  { bindings :=
      [{ element := { nsPrefix := "fr", uri := "fr", localName := "outer" }, bindingId := none
         template := some relayTemplate },
       { element := { nsPrefix := "fr", uri := "fr", localName := "inner" }, bindingId := none
         template := some frameTemplate }] }

/-- An input `x` in an instance `a`, which passes it on to an instance `b` of its template. -/
def relayControls : Document :=
  { nodes :=
      #[{ kind := .element (.plain "controls") [], children := [1] },
        { kind := .element { nsPrefix := "fr", uri := "fr", localName := "outer" }
            [⟨.plain "id", "a"⟩]
          parent := some 0, children := [2] },
        { kind := .element { nsPrefix := "xf", uri := Namespace.xforms, localName := "input" }
            [⟨.plain "id", "x"⟩]
          parent := some 1 }]
    root := 0 }

theorem check_relayTemplates :
    ∀ b ∈ relayComponents.bindings, ∀ template ∈ b.template, template.check = .ok () := by
  decide

/-- What is met in the form: the ids with the scopes in which they resolve and for which they were
written. The input is met last, in the scope of the outer instance. -/
theorem sightings_relay :
    ((traceScopes relayControls relayComponents).map fun p =>
      p.2.sightings.map fun s => (s.staticId, s.scope, s.origin.home)).toOption =
      some [(some "x", 1, 0), (some "b", 1, 1), (some "a", 0, 0)] := by
  decide +kernel

/-- **Not every element resolves in the scope that it was written for.** The input `x` of
`relayControls` is written in the controls document and resolves in the scope inside `a`. -/
theorem not_scope_eq_home :
    ¬∀ (controls : Document) (components : ComponentRegistry) (t : ScopeTree) (l : Ledger),
      controls.check = .ok () →
      (∀ b ∈ components.bindings, ∀ template ∈ b.template, template.check = .ok ()) →
      traceScopes controls components = .ok (t, l) →
      ∀ s ∈ l.sightings, s.scope = s.origin.home := by
  intro hall
  have hmet := sightings_relay
  cases htrace : traceScopes relayControls relayComponents with
  | error e =>
    rw [htrace] at hmet
    contradiction
  | ok p =>
    rw [htrace] at hmet
    have hsightings : (p.2.sightings.map fun s => (s.staticId, s.scope, s.origin.home)) =
        [(some "x", 1, 0), (some "b", 1, 1), (some "a", 0, 0)] := Option.some.inj hmet
    -- the input was written for the top level and resolves in the scope inside `a`
    have hmem : (some "x", 1, 0) ∈
        p.2.sightings.map fun s => (s.staticId, s.scope, s.origin.home) := by
      rw [hsightings]
      exact List.mem_cons_self
    obtain ⟨s, hs, heq⟩ := List.mem_map.1 hmem
    simp only [Prod.mk.injEq] at heq
    have hhome := hall relayControls relayComponents p.1 p.2 (by decide) check_relayTemplates htrace
      s hs
    rw [heq.2.1, heq.2.2] at hhome
    contradiction

/-- The law at `relayControls`, where the input is the one element that was handed on. -/
theorem scope_eq_home_iff_relay :
    relayControls.check = .ok () ∧
      (∀ b ∈ relayComponents.bindings, ∀ template ∈ b.template, template.check = .ok ()) ∧
      ∃ t, resolveScopes relayControls relayComponents = .ok t ∧ ∃ l,
        traceScopes relayControls relayComponents = .ok (t, l) ∧
        ∀ s ∈ l.sightings, s.scope = s.origin.home ↔ s.origin.handedOn = false := by
  obtain ⟨t, ht⟩ : ∃ t, resolveScopes relayControls relayComponents = .ok t := by
    have hsome : ((resolveScopes relayControls relayComponents).map fun _ => ()).toOption =
        some () := by decide +kernel
    cases h : resolveScopes relayControls relayComponents with
    | error e =>
      rw [h] at hsome
      contradiction
    | ok t => exact ⟨t, rfl⟩
  obtain ⟨l, hl, -, hsightings, -⟩ := scope_eq_home_iff (by decide) check_relayTemplates ht
  exact ⟨by decide, check_relayTemplates, t, ht, l, hl, fun s hs => (hsightings s hs).2.2.1⟩

end FormEngine
