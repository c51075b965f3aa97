import FormEngine.Scope.Tree
/-!
# Resolving scopes

A walk over the controls document that puts every id into the scope where it resolves and
expands every component instance it meets, then walks the expansion in turn. XBL definitions
are passed over, and so is what is inside an instance of data.

A shadow tree is looked up anew at each step of its walk, because an instance with the same
prefixed id deeper inside takes its place. A walk that asks for a node which its document does
not have stops with `strayNode`, and one whose depth exceeds every bound stops with `endless`;
neither is an answer about the form.
-/

namespace FormEngine

/-- Why a walk over a form stops. -/
inductive Stop where
  | finding (e : AnalysisError)
  | strayNode
  | endless
  deriving DecidableEq, Repr

/-- What is walked: the controls document or the shadow tree of an instance. -/
inductive Source where
  | controls
  | shadow (prefixedId : String)
  deriving DecidableEq, Repr

namespace ScopeTree

/-- The document of a source. -/
def document? (t : ScopeTree) (controls : Document) : Source → Option Document
  | .controls => some controls
  | .shadow key => (t.shadowTree? key).map (·.document)

/-- The scope of an element that a walk in `scope` comes to. -/
def scopeOfChild? (t : ScopeTree) (scope : ScopeId) (child : NodeId) : Source → Option ScopeId
  | .controls => some scope
  | .shadow key => (t.shadowTree? key).map fun s => s.scopeOf child

end ScopeTree

/-- The names that have a meaning of their own, bound or not. -/
def QName.isBuiltin (n : QName) : Bool :=
  n.uri == Namespace.xforms || n.uri == Namespace.xxforms || n.uri == Namespace.xhtml

/-- The ids in the event handlers on a component instance. -/
def Document.handlerIds (d : Document) (n : NodeId) : List String :=
  ((d.childElements n).filter fun c => (d.attribute? c Namespace.events "event").isSome).flatMap
    fun c => (d.descendants c).filterMap d.staticId?

/-- The depth that no walk over these documents exceeds unless a binding contains itself. -/
def walkBound (controls : Document) (components : ComponentRegistry) : Nat :=
  Nat.pow (controls.size + components.templateSize + 2) (components.bindings.length + 3)

/-- The walk from one element in a scope. -/
def resolveElement (controls : Document) :
    Nat → Source → NodeId → ScopeId → ScopeTree → Except Stop ScopeTree
  | 0, _, _, _, _ => .error .endless
  | fuel + 1, source, n, scope, t =>
    match t.document? controls source with
    | none => .error .strayNode
    | some d =>
      if d.size ≤ n then .error .strayNode
      else
        match d.name? n with
        | none => .ok t
        | some name =>
          if name.uri = Namespace.xbl then .ok t
          else
            let t :=
              match d.staticId? n with
              | none => t
              | some id => t.index (t.prefixedId scope id) scope
            if name.is Namespace.xforms "instance" then .ok t
            else if t.components.isComponent name then
              match d.staticId? n with
              | none =>
                .error (.finding
                  (.unresolvedComponent name.qualified "component instance has no id"))
              | some id =>
                let key := t.prefixedId scope id
                match t.components.instantiate d n key scope t.size with
                | .error e => .error (.finding e)
                | .ok shadow =>
                  let t := t.createScope scope key
                  let t := (d.handlerIds n).foldl
                    (fun t id => t.index (t.prefixedId scope id) scope) t
                  (shadow.document.childElements shadow.document.root).foldlM
                    (fun t child =>
                      match t.scopeOfChild? scope child (.shadow key) with
                      | none => .error .strayNode
                      | some s => resolveElement controls fuel (.shadow key) child s t)
                    (t.setShadowTree key shadow)
            else if !name.isBuiltin && t.components.isComponentNamespace name.uri then
              .error (.finding (.unresolvedComponent name.qualified "no binding matches this element"))
            else
              (d.childElements n).foldlM
                (fun t child =>
                  match t.scopeOfChild? scope child source with
                  | none => .error .strayNode
                  | some s => resolveElement controls fuel source child s t)
                t

/-- The scope tree of a controls document under the bindings of a form. -/
def resolveScopes (controls : Document) (components : ComponentRegistry) : Except Stop ScopeTree :=
  (controls.childElements controls.root).foldlM
    (fun t child =>
      resolveElement controls (walkBound controls components) .controls child 0 t)
    (ScopeTree.ofComponents components)

end FormEngine
