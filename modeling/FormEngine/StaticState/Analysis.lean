import FormEngine.Control.Builder
import FormEngine.Control.Offline
import FormEngine.Event.Extract
import FormEngine.Scope.Resolver
/-!
# Analysis

The analysis of a form resolves its scopes, registers its models, builds the control tree,
collects scripts and indexes event handlers, in this order. Models of a component template are
registered in the scope of each instance; models in copied content are not, because they were
found where they were written.
-/

namespace FormEngine

/-- The result of an analysis. -/
structure Analysis where
  scopes : ScopeTree
  models : ModelIndex
  controls : ControlTree
  events : EventIndex
  warnings : List Warning
  deriving Repr, Inhabited

namespace Analysis

/-- The models in a shadow tree that its template brought. -/
def templateModels (s : ShadowTree) : List NodeId :=
  let d := s.document
  (d.descendants d.root).filter fun n =>
    d.isNamed n Namespace.xforms "model" && !d.hasAncestorNamed n Namespace.xforms "instance" &&
      !s.isOuter n

/-- The models of a form: the given documents at top level, then those of each instance. -/
def modelIndex (t : ScopeTree) (documents : List Document) : ModelIndex :=
  let top := documents.foldl (fun x d => x.add Scope.top d) ({} : ModelIndex)
  t.shadowTrees.foldl
    (fun x e =>
      match t.scope? e.2.innerScope with
      | none => x
      | some scope =>
        (templateModels e.2).foldl (fun x n => x.add scope (e.2.document.subtreeDocument n)) x)
    top

/-- The scripts of the controls, of the models and of the shadow trees. -/
def collectScripts (f : Form) (models : ModelIndex) (t : ControlTree) : ControlTree :=
  let t := t.addScripts f.controls fun _ => ""
  let t := models.models.foldl
    (fun t m => t.addScripts m.document fun _ => ((f.scopes.scope? m.scope).map (·.fullPrefix)).getD "")
    t
  (f.trees.drop 1).foldl (fun t r => t.addScripts (f.document r) fun n => f.prefixOf ⟨r, n⟩) t

/-- The analysis of a controls document with the models and bindings of its form. -/
def run (controls : Document) (models : List Document) (components : ComponentRegistry) :
    Except Stop Analysis := do
  let scopes ← resolveScopes controls components
  let f : Form := { controls, scopes }
  let models := modelIndex scopes models
  let (tree, warnings) ← buildControlTree f
  let tree := collectScripts f models tree
  let events := EventIndex.addFormHandlers f tree {}
  let tree := tree.classifyOffline f (models.models.map (·.document))
  let events := models.models.foldl (EventIndex.addModelHandlers scopes) events
  return { scopes := scopes.freeTemplates, models, controls := tree, events, warnings }

/-! ## Questions about repeats -/

/-- The control with a prefixed id or, for the id of an action, the observer around the action. -/
def controlAt? (a : Analysis) (prefixedId : String) : Option Control :=
  (a.controls.control? prefixedId).or
    ((a.events.ancestorObserver? prefixedId).bind a.controls.control?)

/-- The prefixed ids of the repeats around a control or an action, innermost first, up to but
without `stop`. -/
def ancestorRepeats (a : Analysis) (prefixedId : String) (stop : Option String) : List String :=
  match a.controlAt? prefixedId with
  | none => []
  | some c => a.controls.ancestorRepeats c stop

/-- The last element of the longest common start of two lists. -/
def lastCommon? : List String → List String → Option String
  | x :: xs, y :: ys => if x = y then (lastCommon? xs ys).or (some x) else none
  | _, _ => none

/-- The innermost repeat around both of two controls. -/
def closestCommonRepeat? (a : Analysis) (id₁ id₂ : String) : Option String :=
  lastCommon? (a.ancestorRepeats id₁ none).reverse (a.ancestorRepeats id₂ none).reverse

end Analysis

end FormEngine
