import FormEngine.Control.Builder
import FormEngine.Proofs.Component.Expansion
import FormEngine.Proofs.Outcome
import Mathlib.Data.List.Forall2
/-!
# Where an element was written

The scope in which an element resolves is decided anew in each shadow tree, from the set of nodes
that came into it as content. To compare it with the place where the element was written, the walk
is run once more with a ledger beside it: for every shadow tree the ledger knows of each element in
which document it was written, at which node, and for which scope, the top-level scope for the
controls document and the inner scope of the instance for a template. The ledger looks on only.

What is found: an element resolves in the scope that it was written for until it is handed on, that
is, until it stands in a shadow tree as content and there an instance that the template holds takes
it over. From then on it resolves in a newer scope.
-/

namespace FormEngine

/-! ## The ledger -/

/-- Where an element was written, and what became of it. -/
structure Origin where
  /-- The controls document or a template. -/
  document : Document
  node : NodeId
  /-- The scope that the element was written for. -/
  home : ScopeId
  /-- An instance of some template took it over from the content of a shadow tree. -/
  handedOn : Bool

/-- An element that the walk met, with the scope in which it resolves. -/
structure Sighting where
  name : Option QName
  staticId : Option String
  scope : ScopeId
  origin : Origin

/-- The origins of the elements of each shadow tree, and the elements met, the newest first. -/
structure Ledger where
  origins : List (String × (NodeId → Origin)) := []
  sightings : List Sighting := []

/-- An element that stands where it was written, in the controls document. -/
def Origin.top (controls : Document) (n : NodeId) : Origin :=
  { document := controls, node := n, home := 0, handedOn := false }

/-- The origins in a shadow tree: what is outside of the content was written in the template. The
content is copied as a whole each time, so the outer nodes have the origins of the content over and
over again. -/
def ShadowTree.origins (s : ShadowTree) (template : Document) (content : List Origin)
    (n : NodeId) : Origin :=
  ((s.outerNodes.zip (List.replicate s.outerNodes.length content).flatten).lookup n).getD
    { document := template, node := n, home := s.innerScope, handedOn := false }

/-- The node came into its document as the content of an instance. -/
def ScopeTree.isOuter (t : ScopeTree) (n : NodeId) : Source → Bool
  | .controls => false
  | .shadow key => (t.shadowTree? key).any fun s => s.isOuter n

namespace Ledger

/-- The origin of an element. -/
def origin (l : Ledger) (controls : Document) (n : NodeId) : Source → Origin
  | .controls => Origin.top controls n
  | .shadow key => ((l.origins.lookup key).map fun f => f n).getD (Origin.top controls n)

/-- The origin of an element that the instance `bound` of the same document takes over. Content of
a shadow tree is handed on when the instance belongs to the template. -/
def taken (l : Ledger) (controls : Document) (t : ScopeTree) (source : Source) (bound n : NodeId) :
    Origin :=
  let o := l.origin controls n source
  { o with handedOn := o.handedOn || t.isOuter n source && !t.isOuter bound source }

end Ledger

/-! ## The walk with its ledger -/

namespace ScopeTree

/-- Ids resolve in a scope from now on. -/
def indexAll (t : ScopeTree) (scope : ScopeId) (ids : List String) : ScopeTree :=
  ids.foldl (fun t id => t.index (t.prefixedId scope id) scope) t

/-- The scope tree that knows of an instance and of its shadow tree. -/
def enter (t : ScopeTree) (d : Document) (n : NodeId) (scope : ScopeId) (key : String)
    (shadow : ShadowTree) : ScopeTree :=
  ((t.createScope scope key).indexAll scope (d.handlerIds n)).setShadowTree key shadow

end ScopeTree

/-- The elements in the event handlers on a component instance. -/
def Document.handlerElements (d : Document) (n : NodeId) : List NodeId :=
  ((d.childElements n).filter fun c => (d.attribute? c Namespace.events "event").isSome).flatMap
    d.descendants

/-- The elements that a component instance takes into its shadow tree. -/
def Document.contentElements (d : Document) (n : NodeId) : List NodeId :=
  (d.componentContent n).flatMap d.descendants

namespace Ledger

/-- Elements of a document are met in a scope, one after the other. -/
def see (l : Ledger) (d : Document) (scope : ScopeId) (origin : NodeId → Origin)
    (ns : List NodeId) : Ledger :=
  { l with sightings :=
      (ns.map fun n => { name := d.name? n, staticId := d.staticId? n, scope, origin := origin n :
        Sighting }).reverse ++ l.sightings }

/-- The elements in the handlers on an instance are met, and the shadow tree of the instance gets
the origins of its elements. -/
def enter (l : Ledger) (controls : Document) (t : ScopeTree) (source : Source) (d : Document)
    (n : NodeId) (scope : ScopeId) (key : String) (shadow : ShadowTree) : Ledger :=
  let taken := l.taken controls t source n
  let template := ((d.name? n).bind t.components.template?).getD d
  { l.see d scope taken (d.handlerElements n) with
    origins := Json.assign key
      (shadow.origins template ((d.contentElements n).map taken)) l.origins }

end Ledger

/-- The walk from one element in a scope, with its ledger. -/
def traceElement (controls : Document) :
    Nat → Source → NodeId → ScopeId → ScopeTree × Ledger → Except Stop (ScopeTree × Ledger)
  | 0, _, _, _, _ => .error .endless
  | fuel + 1, source, n, scope, (t, l) =>
    match t.document? controls source with
    | none => .error .strayNode
    | some d =>
      if d.size ≤ n then .error .strayNode
      else
        match d.name? n with
        | none => .ok (t, l)
        | some name =>
          if name.uri = Namespace.xbl then .ok (t, l)
          else
            let l := l.see d scope (fun n => l.origin controls n source) [n]
            let t := t.indexAll scope (d.staticId? n).toList
            if name.is Namespace.xforms "instance" then .ok (t, l)
            else if t.components.isComponent name then
              match d.staticId? n with
              | none =>
                .error (.finding
                  (.unresolvedComponent name.qualified "component instance has no id"))
              | some id =>
                let key := t.prefixedId scope id
                match t.components.instantiate d n key scope t.size with
                | .error e => .error (.finding e)
                | .ok shadow =>
                  (shadow.document.childElements shadow.document.root).foldlM
                    (fun p child =>
                      match p.1.scopeOfChild? scope child (.shadow key) with
                      | none => .error .strayNode
                      | some s => traceElement controls fuel (.shadow key) child s p)
                    (t.enter d n scope key shadow, l.enter controls t source d n scope key shadow)
            else if !name.isBuiltin && t.components.isComponentNamespace name.uri then
              .error (.finding (.unresolvedComponent name.qualified "no binding matches this element"))
            else
              (d.childElements n).foldlM
                (fun p child =>
                  match p.1.scopeOfChild? scope child source with
                  | none => .error .strayNode
                  | some s => traceElement controls fuel source child s p)
                (t, l)

/-- The scope tree of a controls document, with the ledger of the walk. -/
def traceScopes (controls : Document) (components : ComponentRegistry) :
    Except Stop (ScopeTree × Ledger) :=
  (controls.childElements controls.root).foldlM
    (fun p child =>
      traceElement controls (walkBound controls components) .controls child 0 p)
    (ScopeTree.ofComponents components, {})

/-- The walk over elements one after the other, with its ledger. -/
def traceAll (controls : Document) (fuel : Nat) (source : Source) (scope : ScopeId)
    (ns : List NodeId) (p : ScopeTree × Ledger) : Except Stop (ScopeTree × Ledger) :=
  ns.foldlM
    (fun p child =>
      match p.1.scopeOfChild? scope child source with
      | none => .error .strayNode
      | some s => traceElement controls fuel source child s p)
    p

/-- The element that the walk is at has been met. -/
def Ledger.meet (l : Ledger) (controls : Document) (source : Source) (d : Document) (n : NodeId)
    (scope : ScopeId) : Ledger :=
  l.see d scope (fun n => l.origin controls n source) [n]

/-- What the walk with its ledger does at an element. -/
inductive Traces (controls : Document) (fuel : Nat) (source : Source) (n : NodeId)
    (scope : ScopeId) (t : ScopeTree) (l : Ledger) : ScopeTree × Ledger → Prop
  | passed : Traces controls fuel source n scope t l (t, l)
  | data {d : Document} {name : QName} (hd : t.document? controls source = some d)
      (hname : d.name? n = some name) : Traces controls fuel source n scope t l
        (t.indexAll scope (d.staticId? n).toList, l.meet controls source d n scope)
  | component {d : Document} {name : QName} {t₁ : ScopeTree} {key : String} {shadow : ShadowTree}
      {p : ScopeTree × Ledger} (hd : t.document? controls source = some d)
      (hname : d.name? n = some name) (ht₁ : t₁ = t.indexAll scope (d.staticId? n).toList)
      (hshadow : t₁.components.instantiate d n key scope t₁.size = .ok shadow)
      (hinner : traceAll controls fuel (.shadow key) scope
        (shadow.document.childElements shadow.document.root)
        (t₁.enter d n scope key shadow,
          (l.meet controls source d n scope).enter controls t₁ source d n scope key shadow) =
        .ok p) :
      Traces controls fuel source n scope t l p
  | plain {d : Document} {name : QName} {p : ScopeTree × Ledger}
      (hd : t.document? controls source = some d) (hname : d.name? n = some name)
      (hbelow : traceAll controls fuel source scope (d.childElements n)
        (t.indexAll scope (d.staticId? n).toList, l.meet controls source d n scope) = .ok p) :
      Traces controls fuel source n scope t l p

/-- A walk with its ledger that goes on without an error does one of these. -/
theorem traces_of_traceElement {controls : Document} {fuel : Nat} {source : Source} {n : NodeId}
    {scope : ScopeId} {t : ScopeTree} {l : Ledger} {p : ScopeTree × Ledger}
    (h : traceElement controls (fuel + 1) source n scope (t, l) = .ok p) :
    Traces controls fuel source n scope t l p := by
  rw [traceElement] at h
  cases hd : t.document? controls source with
  | none =>
    rw [hd] at h
    contradiction
  | some d =>
    rw [hd] at h
    simp only at h
    split at h
    · contradiction
    cases hname : d.name? n with
    | none =>
      rw [hname] at h
      obtain rfl := Except.ok.inj h
      exact .passed
    | some name =>
      rw [hname] at h
      simp only at h
      split at h
      · obtain rfl := Except.ok.inj h
        exact .passed
      split at h
      · obtain rfl := Except.ok.inj h
        exact .data hd hname
      split at h
      · generalize ht₁ : t.indexAll scope (d.staticId? n).toList = t₁ at h
        cases hid : d.staticId? n with
        | none =>
          rw [hid] at h
          contradiction
        | some id =>
          rw [hid] at h
          simp only at h
          cases hshadow : t₁.components.instantiate d n (t₁.prefixedId scope id) scope t₁.size with
          | error e =>
            rw [hshadow] at h
            contradiction
          | ok shadow =>
            rw [hshadow] at h
            exact .component hd hname ht₁.symm hshadow h
      · split at h
        · contradiction
        · exact .plain hd hname h

/-! ## The ledger looks on only -/

/-- A fold over pairs whose steps forget the second component. -/
theorem foldlM_map_fst {ε α σ τ : Type} {f : σ × τ → α → Except ε (σ × τ)} {g : σ → α → Except ε σ}
    {xs : List α} (h : ∀ x ∈ xs, ∀ p, (f p x).map Prod.fst = g p.1 x) (p : σ × τ) :
    (xs.foldlM f p).map Prod.fst = xs.foldlM g p.1 := by
  induction xs generalizing p with
  | nil => rfl
  | cons x xs ih =>
    have hx := h x List.mem_cons_self p
    rw [List.foldlM_cons, List.foldlM_cons]
    cases hf : f p x with
    | error e =>
      rw [hf] at hx
      rw [← hx]
      rfl
    | ok p' =>
      rw [hf] at hx
      rw [← hx]
      exact ih (fun y hy => h y (List.mem_cons_of_mem x hy)) p'

theorem filterMap_handlerElements (d : Document) (n : NodeId) :
    (d.handlerElements n).filterMap d.staticId? = d.handlerIds n := by
  rw [Document.handlerElements, Document.handlerIds, List.filterMap_flatMap]

/-- One step of the walk, with the changes to the scope tree named. -/
theorem resolveElement_succ (controls : Document) (fuel : Nat) (source : Source) (n : NodeId)
    (scope : ScopeId) (t : ScopeTree) :
    resolveElement controls (fuel + 1) source n scope t =
      match t.document? controls source with
      | none => .error .strayNode
      | some d =>
        if d.size ≤ n then .error .strayNode
        else
          match d.name? n with
          | none => .ok t
          | some name =>
            if name.uri = Namespace.xbl then .ok t
            else
              let t := t.indexAll scope (d.staticId? n).toList
              if name.is Namespace.xforms "instance" then .ok t
              else if t.components.isComponent name then
                match d.staticId? n with
                | none =>
                  .error (.finding
                    (.unresolvedComponent name.qualified "component instance has no id"))
                | some id =>
                  let key := t.prefixedId scope id
                  match t.components.instantiate d n key scope t.size with
                  | .error e => .error (.finding e)
                  | .ok shadow =>
                    (shadow.document.childElements shadow.document.root).foldlM
                      (fun t child =>
                        match t.scopeOfChild? scope child (.shadow key) with
                        | none => .error .strayNode
                        | some s => resolveElement controls fuel (.shadow key) child s t)
                      (t.enter d n scope key shadow)
              else if !name.isBuiltin && t.components.isComponentNamespace name.uri then
                .error
                  (.finding (.unresolvedComponent name.qualified "no binding matches this element"))
              else
                (d.childElements n).foldlM
                  (fun t child =>
                    match t.scopeOfChild? scope child source with
                    | none => .error .strayNode
                    | some s => resolveElement controls fuel source child s t)
                  t := by
  rw [resolveElement]
  cases t.document? controls source with
  | none => rfl
  | some d =>
    dsimp only
    cases d.staticId? n <;> rfl

/-- **The walk with its ledger is the walk.** -/
theorem traceElement_map_fst (controls : Document) (fuel : Nat) (source : Source) (n : NodeId)
    (scope : ScopeId) (p : ScopeTree × Ledger) :
    (traceElement controls fuel source n scope p).map Prod.fst =
      resolveElement controls fuel source n scope p.1 := by
  induction fuel generalizing source n scope p with
  | zero => rfl
  | succ fuel ih =>
    obtain ⟨t, l⟩ := p
    have hchild : ∀ (source : Source) (scope : ScopeId) (child : NodeId) (p : ScopeTree × Ledger),
        Except.map Prod.fst (match p.1.scopeOfChild? scope child source with
          | none => .error .strayNode
          | some s => traceElement controls fuel source child s p) =
        match p.1.scopeOfChild? scope child source with
          | none => .error .strayNode
          | some s => resolveElement controls fuel source child s p.1 := by
      intro source scope child p
      cases p.1.scopeOfChild? scope child source with
      | none => rfl
      | some s => exact ih source child s p
    rw [traceElement, resolveElement_succ]
    cases t.document? controls source with
    | none => rfl
    | some d =>
      simp only
      split
      · rfl
      · cases d.name? n with
        | none => rfl
        | some name =>
          simp only
          split
          · rfl
          · generalize t.indexAll scope (d.staticId? n).toList = t'
            split
            · rfl
            · split
              · cases d.staticId? n with
                | none => rfl
                | some id =>
                  simp only
                  cases t'.components.instantiate d n (t'.prefixedId scope id) scope t'.size with
                  | error e => rfl
                  | ok shadow => exact foldlM_map_fst (fun c _ p => hchild _ _ c p) _
              · split
                · rfl
                · exact foldlM_map_fst (fun c _ p => hchild _ _ c p) _

theorem traceScopes_map_fst (controls : Document) (components : ComponentRegistry) :
    (traceScopes controls components).map Prod.fst = resolveScopes controls components :=
  foldlM_map_fst (fun c _ p => traceElement_map_fst controls _ .controls c 0 p) _

/-- The ledger of a walk that ends well. -/
theorem exists_traceScopes {controls : Document} {components : ComponentRegistry} {t : ScopeTree}
    (h : resolveScopes controls components = .ok t) :
    ∃ l, traceScopes controls components = .ok (t, l) := by
  rw [← traceScopes_map_fst] at h
  cases htrace : traceScopes controls components with
  | error e =>
    rw [htrace] at h
    contradiction
  | ok p =>
    rw [htrace] at h
    obtain rfl : p.1 = t := Except.ok.inj h
    exact ⟨p.2, rfl⟩

end FormEngine
