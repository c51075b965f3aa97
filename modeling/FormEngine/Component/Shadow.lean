import FormEngine.Component.Registry
/-!
# Shadow trees

The shadow tree of a component instance is a copy of the template in which each `xbl:content`
element gives way to copies of the instance's own children, in order. Children that handle
events stay outside. The elements that came from the instance resolve in the scope around it,
the elements of the template in the scope inside.
-/

namespace FormEngine

/-- The number of a scope in its tree. -/
abbrev ScopeId := Nat

/-- The expansion of one component instance. -/
structure ShadowTree where
  document : Document
  boundPrefixedId : String
  innerScope : ScopeId
  outerScope : ScopeId
  /-- The elements that were copied from the content of the instance. -/
  outerNodes : List NodeId
  deriving Repr, Inhabited

namespace ShadowTree

def isOuter (t : ShadowTree) (n : NodeId) : Bool := t.outerNodes.contains n

/-- The scope in which an element of the shadow tree resolves. -/
def scopeOf (t : ShadowTree) (n : NodeId) : ScopeId :=
  if t.isOuter n then t.outerScope else t.innerScope

end ShadowTree

/-- A template under expansion: the document so far and the elements copied into it. -/
structure Expansion where
  document : Document
  outerNodes : List NodeId := []
  deriving Repr, Inhabited

namespace Expansion

/-- Copies of the given nodes are put under `parent` from position `index` on. -/
def insertAll (source : Document) (parent : NodeId) : Nat → List NodeId → Expansion → Expansion
  | _, [], e => e
  | index, c :: rest, e =>
    let document := source.insertSubtree c e.document parent index
    insertAll source parent (index + 1) rest
      { document, outerNodes := e.outerNodes ++ document.descendants e.document.size }

/-- An insertion point gives way to copies of the content. -/
def fill (source : Document) (content : List NodeId) (e : Expansion) (point : NodeId) : Expansion :=
  match e.document.parent? point, e.document.childIndex? point with
  | some parent, some index =>
    insertAll source parent index content { e with document := e.document.detach point }
  | _, _ => e

end Expansion

/-- The children of a component instance that go into its shadow tree. -/
def Document.componentContent (d : Document) (n : NodeId) : List NodeId :=
  (d.children n).filter fun c => (d.attribute? c Namespace.events "event").isNone

/-- The `xbl:content` elements of a template. -/
def Document.insertionPoints (d : Document) : List NodeId :=
  (d.descendants d.root).filter fun n => d.isNamed n Namespace.xbl "content"

/-- The shadow tree of the element `bound` of `source`. -/
def ComponentRegistry.instantiate (r : ComponentRegistry) (source : Document) (bound : NodeId)
    (prefixedId : String) (outerScope innerScope : ScopeId) : Except AnalysisError ShadowTree :=
  match source.name? bound with
  | none => .error (.unresolvedComponent prefixedId "not an element")
  | some name =>
    match r.binding? name with
    | none => .error (.unresolvedComponent name.qualified "no binding")
    | some binding =>
      match binding.template with
      | none => .error (.unresolvedComponent name.qualified "binding template released")
      | some template =>
        let e := template.insertionPoints.foldl
          (Expansion.fill source (source.componentContent bound)) { document := template }
        .ok { document := e.document, boundPrefixedId := prefixedId, innerScope, outerScope
              outerNodes := e.outerNodes }

end FormEngine
