import FormEngine.Component.Shadow
/-!
# Scopes

A scope is a space of ids: the one of the top-level document, numbered 0, or the one inside a
component instance. Inside the instance with prefixed id `a$b` every id is prefixed by `a$b$`,
so prefixes concatenate with the nesting of instances. The scope tree also records in which
scope each prefixed id resolves and the shadow tree of each instance.
-/

namespace FormEngine

/-- A scope. The top-level scope alone has no parent. -/
structure Scope where
  id : ScopeId
  /-- The prefixed id of the instance that the scope is inside of, empty at top level. -/
  scopeId : String
  fullPrefix : String
  parent : Option ScopeId
  deriving DecidableEq, Repr, Inhabited

namespace Scope

def top : Scope := ⟨0, "", "", none⟩

def isTopLevel (s : Scope) : Bool := s.parent.isNone

/-- An id of the scope with the scope's prefix. -/
def prefixedId (s : Scope) (staticId : String) : String := s.fullPrefix ++ staticId

/-- What follows the scope's prefix in a prefixed id that starts with it. -/
def staticId? (s : Scope) (prefixedId : String) : Option String :=
  if s.fullPrefix.toList.isPrefixOf prefixedId.toList then
    some (String.ofList (prefixedId.toList.drop s.fullPrefix.toList.length))
  else none

end Scope

/-- The scopes of a form. -/
structure ScopeTree where
  /-- Every scope at the position of its number. -/
  scopes : List Scope := [Scope.top]
  /-- The scope in which an id resolves; the newest entry of an id comes first and holds. -/
  resolution : List (String × ScopeId) := []
  /-- The shadow trees by the prefixed id of their instance, in order of first instantiation. -/
  shadowTrees : List (String × ShadowTree) := []
  components : ComponentRegistry := {}
  deriving Repr, Inhabited

namespace ScopeTree

def ofComponents (components : ComponentRegistry) : ScopeTree := { components }

def size (t : ScopeTree) : Nat := t.scopes.length

def scope? (t : ScopeTree) (s : ScopeId) : Option Scope := t.scopes[s]?

/-- The scope around a scope. -/
def parent? (t : ScopeTree) (s : ScopeId) : Option Scope :=
  ((t.scope? s).bind (·.parent)).bind t.scope?

/-- An id with the prefix of a scope. -/
def prefixedId (t : ScopeTree) (s : ScopeId) (staticId : String) : String :=
  ((t.scope? s).map fun scope => scope.prefixedId staticId).getD staticId

/-- The scope inside the instance with the given prefixed id; its number is the old size. -/
def createScope (t : ScopeTree) (parent : ScopeId) (scopeId : String) : ScopeTree :=
  { t with scopes := t.scopes ++ [⟨t.size, scopeId, scopeId ++ "$", some parent⟩] }

/-- A prefixed id resolves in a scope from now on. -/
def index (t : ScopeTree) (prefixedId : String) (s : ScopeId) : ScopeTree :=
  { t with resolution := (prefixedId, s) :: t.resolution }

/-- The scope in which a prefixed id resolves. -/
def resolutionScope? (t : ScopeTree) (prefixedId : String) : Option Scope :=
  (t.resolution.lookup prefixedId).bind t.scope?

/-- The scope with a given full prefix, the newest if there are several. -/
def scopeByPrefix? (t : ScopeTree) (fullPrefix : String) : Option Scope :=
  t.scopes.reverse.find? fun s => s.fullPrefix == fullPrefix

/-- The element with this prefixed id is a component instance. -/
def hasBinding (t : ScopeTree) (prefixedId : String) : Bool :=
  (t.shadowTrees.lookup prefixedId).isSome

def shadowTree? (t : ScopeTree) (prefixedId : String) : Option ShadowTree :=
  t.shadowTrees.lookup prefixedId

def shadowTreeIndex? (t : ScopeTree) (prefixedId : String) : Option Nat :=
  t.shadowTrees.findIdx? fun e => e.1 == prefixedId

def shadowTreeAt? (t : ScopeTree) (i : Nat) : Option ShadowTree :=
  (t.shadowTrees[i]?).map (·.2)

/-- A shadow tree is kept under the prefixed id of its instance, in the place of an earlier one. -/
def setShadowTree (t : ScopeTree) (prefixedId : String) (s : ShadowTree) : ScopeTree :=
  { t with shadowTrees := Json.assign prefixedId s t.shadowTrees }

/-- The templates are dropped once no instance is still to come. -/
def freeTemplates (t : ScopeTree) : ScopeTree :=
  { t with components := t.components.freeTemplates }

/-- The first `fuel` scopes of the chain from a scope outwards. -/
def chainWithin (t : ScopeTree) : Nat → ScopeId → List Scope
  | 0, _ => []
  | fuel + 1, s =>
    match t.scope? s with
    | none => []
    | some scope =>
      scope :: (match scope.parent with
        | none => []
        | some p => t.chainWithin fuel p)

/-- The scopes from a scope outwards to the top level. -/
def chain (t : ScopeTree) (s : ScopeId) : List Scope := t.chainWithin t.size s

end ScopeTree

end FormEngine
