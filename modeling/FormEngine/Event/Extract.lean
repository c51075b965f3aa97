import FormEngine.Event.Index
import FormEngine.Model
import FormEngine.Query
/-!
# Finding event handlers

Handlers in the controls document and in the shadow trees are accepted when their parent is a
control or a component instance, when they stand at top level, or when they name their
observers. Content that was copied into a shadow tree counts where it was written. Handlers of
a model are found in its document.
-/

namespace FormEngine

/-- Elements of this name can observe events. -/
def ScopeTree.canObserve (t : ScopeTree) (n : QName) : Bool :=
  n.isBuiltinControl || t.components.isComponent n ||
    (n.uri == Namespace.xforms && ["model", "instance", "submission"].contains n.localName)

/-- The id of the nearest ancestor that can observe events. -/
def Document.ancestorObserver? (d : Document) (t : ScopeTree) (n : NodeId) : Option String :=
  ((d.ancestors n).find? fun a => (d.name? a).any t.canObserve).bind d.staticId?

/-- The ids in a subtree in document order. -/
def Document.subtreeIds (d : Document) (n : NodeId) : List String :=
  (d.descendants n).filterMap d.staticId?

namespace Form

/-- The element stands at the top of the controls document. -/
def isTopLevel (f : Form) (e : ElementRef) : Bool :=
  e.tree == .controls && (f.document e.tree).parent? e.node == some (f.document e.tree).root

/-- The id of the parent of an element; at top level it is the id of the whole form. -/
def parentStaticId? (f : Form) (e : ElementRef) : Option String :=
  if f.isTopLevel e then some Event.documentObserver
  else ((f.document e.tree).parent? e.node).bind (f.document e.tree).staticId?

def namesObservers (f : Form) (e : ElementRef) : Bool :=
  ((f.document e.tree).attribute? e.node Namespace.events "observer").isSome

/-- A handler at the element is accepted, with observers or without. -/
def admits (f : Form) (controls : ControlTree) (e : ElementRef) : Bool :=
  f.namesObservers e || f.isTopLevel e ||
    ((f.parentStaticId? e).map (f.prefixOf e ++ ·)).any fun id =>
      f.scopes.hasBinding id || controls.contains id

/-- The id of the nearest element around an element that can observe events; at top level it is the id of
the whole form where there is none. -/
def ancestorObserver? (f : Form) (e : ElementRef) : Option String :=
  ((f.document e.tree).ancestorObserver? f.scopes e.node).or
    (if f.isTopLevel e then some Event.documentObserver else none)

/-- The handler of the form at an element. -/
def handlerAt (f : Form) (e : ElementRef) : EventHandler :=
  .ofElement (f.document e.tree) e.node (.form e) (f.prefixOf e) (f.parentStaticId? e)
    (f.ancestorObserver? e)

/-- The prefix of the observers of a handler: those that it names resolve where it does. -/
def observersPrefix (f : Form) (e : ElementRef) : String :=
  match f.namesObservers e, (f.document e.tree).staticId? e.node with
  | true, some id =>
    ((f.scopes.resolutionScope? (f.prefixOf e ++ id)).map (·.fullPrefix)).getD (f.prefixOf e)
  | _, _ => f.prefixOf e

end Form

namespace EventIndex

/-- A handler at an element of the form is registered if it is accepted. -/
def addHandler (f : Form) (controls : ControlTree) (x : EventIndex) (e : ElementRef) : EventIndex :=
  if f.admits controls e then
    x.register (f.handlerAt e) (f.observersPrefix e) ((f.document e.tree).subtreeIds e.node)
  else x

/-- The elements of a document of the form that may be handlers. -/
def candidates (f : Form) (t : TreeRef) : List ElementRef :=
  let d := f.document t
  ((d.select (.eventHandlers true)).filter fun n =>
    !((f.shadow? t).any fun s => s.isOuter n) && (d.name? n).any (·.isAction)).map fun n => ⟨t, n⟩

/-- The handlers of the controls document and of the shadow trees. -/
def addFormHandlers (f : Form) (controls : ControlTree) (x : EventIndex) : EventIndex :=
  (f.trees.flatMap (candidates f)).foldl (addHandler f controls) x

/-- The handlers of a model. -/
def addModelHandlers (t : ScopeTree) (x : EventIndex) (m : Model) : EventIndex :=
  let d := m.document
  let scopePrefix := ((t.scope? m.scope).map (·.fullPrefix)).getD ""
  ((d.select (.eventHandlers false)).filter fun n => (d.name? n).any (·.isAction)).foldl
    (fun x n =>
      x.register
        (.ofElement d n (.model m.prefixedId n) scopePrefix ((d.parent? n).bind d.staticId?)
          (d.ancestorObserver? t n))
        scopePrefix (d.subtreeIds n))
    x

end EventIndex

end FormEngine
