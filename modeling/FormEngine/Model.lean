import FormEngine.Scope.Tree
/-!
# Models

A model is a standalone copy of an `xf:model` element with its instances and bind declarations.
The index keeps the models of a form in order of registration, the first under each prefixed
id, and lists for each scope the prefixed ids registered in it. A model without an id gets one
from the number of models before it.
-/

namespace FormEngine

/-- A bind declaration with the binds nested in it. -/
inductive Bind where
  | mk (id reference type calculate relevant readonly required constraint : Option String)
    (children : List Bind)
  deriving Repr, Inhabited

namespace Document

/-- The `xf:bind` declarations in the first `fuel` levels under an element. -/
def bindsWithin (d : Document) : Nat → NodeId → List Bind
  | 0, _ => []
  | fuel + 1, n =>
    ((d.childElements n).filter fun c => d.isNamed c Namespace.xforms "bind").map fun c =>
      .mk (d.attr? c "id") ((d.attr? c "ref").or (d.attr? c "nodeset")) (d.attr? c "type")
        (d.attr? c "calculate") (d.attr? c "relevant") (d.attr? c "readonly") (d.attr? c "required")
        (d.attr? c "constraint") (d.bindsWithin fuel c)

/-- The bind declarations under an element. -/
def binds (d : Document) (n : NodeId) : List Bind := d.bindsWithin d.size n

/-- Standalone copies of the models under a node, outside instances, in document order. -/
def nestedModels (d : Document) (n : NodeId) : List Document :=
  ((d.descendants n).filter fun m =>
    d.isNamed m Namespace.xforms "model" && !d.hasAncestorNamed m Namespace.xforms "instance").map
      d.subtreeDocument

end Document

structure Model where
  prefixedId : String
  staticId : String
  scope : ScopeId
  document : Document
  instanceStaticIds : List String
  /-- The instance elements of `document`. -/
  instanceNodes : List NodeId
  defaultInstancePrefixedId : Option String
  binds : List Bind
  deriving Repr, Inhabited

namespace Model

/-- The model of a model document in a scope; `fallbackId` stands in for a missing id. -/
def ofDocument (scope : Scope) (d : Document) (fallbackId : String) : Model :=
  let staticId := (d.staticId? d.root).getD fallbackId
  let instanceNodes := (d.childElements d.root).filter fun c =>
    d.isNamed c Namespace.xforms "instance"
  let instanceStaticIds := instanceNodes.filterMap d.staticId?
  { prefixedId := scope.prefixedId staticId, staticId, scope := scope.id, document := d
    instanceStaticIds, instanceNodes
    defaultInstancePrefixedId := instanceStaticIds.head?.map scope.prefixedId
    binds := d.binds d.root }

/-- The instance that is meant when none is named. -/
def defaultInstanceStaticId? (m : Model) : Option String := m.instanceStaticIds.head?

def hasInstance (m : Model) (staticId : String) : Bool := m.instanceStaticIds.contains staticId

end Model

/-- The models of a form. -/
structure ModelIndex where
  /-- The models in order of registration, no two with one prefixed id. -/
  models : List Model := []
  /-- The prefixed ids of registered model documents with their scopes, in order. -/
  registrations : List (ScopeId × String) := []
  deriving Repr, Inhabited

namespace ModelIndex

def size (x : ModelIndex) : Nat := x.models.length

def model? (x : ModelIndex) (prefixedId : String) : Option Model :=
  x.models.find? fun m => m.prefixedId == prefixedId

/-- The id of the next model that has none of its own. -/
def fallbackId (x : ModelIndex) : String := "xf-model-" ++ Nat.repr (x.size + 1)

/-- The model of a model document found in a scope. -/
def modelOf (x : ModelIndex) (scope : Scope) (d : Document) : Model :=
  Model.ofDocument scope d x.fallbackId

/-- A model document is registered; a model whose prefixed id is taken is not kept, but its id
is listed for the scope. -/
def add (x : ModelIndex) (scope : Scope) (d : Document) : ModelIndex :=
  let m := x.modelOf scope d
  { models := if (x.model? m.prefixedId).isSome then x.models else x.models ++ [m]
    registrations := x.registrations ++ [(scope.id, m.prefixedId)] }

/-- The prefixed ids listed for a scope. -/
def idsForScope (x : ModelIndex) (s : ScopeId) : List String :=
  (x.registrations.filter fun r => r.1 == s).map (·.2)

def modelsForScope (x : ModelIndex) (s : ScopeId) : List Model :=
  (x.idsForScope s).filterMap x.model?

def defaultModel? (x : ModelIndex) (s : ScopeId) : Option Model :=
  (x.idsForScope s).head?.bind x.model?

/-- The default instance of the default model of a scope. -/
def defaultInstancePrefixedId? (x : ModelIndex) (s : ScopeId) : Option String :=
  (x.defaultModel? s).bind (·.defaultInstancePrefixedId)

def instanceContainers (x : ModelIndex) (modelPrefixedId : String) : List NodeId :=
  ((x.model? modelPrefixedId).map (·.instanceNodes)).getD []

/-- An instance id with the prefix of the innermost scope, from `start` outwards, in which some
model has the instance. -/
def findInstancePrefixedId? (x : ModelIndex) (t : ScopeTree) (start : ScopeId)
    (instanceId : String) : Option String :=
  ((t.chain start).find? fun s => (x.modelsForScope s.id).any fun m => m.hasInstance instanceId).map
    fun s => s.prefixedId instanceId

end ModelIndex

end FormEngine
