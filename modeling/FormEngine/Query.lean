import FormEngine.Document.Walk
import FormEngine.Text.Blank
/-!
# Queries over a document

The three questions that analysis asks of a document: which elements handle events, which
elements have a given name, and which triggers stand beside the handlers of an activation.
Markup inside an instance is data and never an answer.
-/

namespace FormEngine

/-- A question about a document. -/
inductive Query where
  /-- Elements with an `ev:event` attribute whose observer is known: the parent has an id or is
  the root, or `ev:observer` names one. On request, none from inside a model. -/
  | eventHandlers (excludeModels : Bool)
  /-- Elements with the given name. -/
  | elementsNamed (name : QName)
  /-- The triggers with an id under the parent of the nearest handler of `DOMActivate` around
  each element with the given name. -/
  | activationTriggers (name : QName)
  deriving DecidableEq, Repr

namespace Document

/-- The node stands in an instance. -/
def inInstance (d : Document) (n : NodeId) : Bool :=
  d.hasAncestorNamed n Namespace.xforms "instance"

/-- The observer of a handler can be told: an id on its parent, `ev:observer`, or top level. -/
def hasKnownObserver (d : Document) (n : NodeId) : Bool :=
  ((d.parent? n).any fun p => (d.staticId? p).isSome) ||
    (d.attribute? n Namespace.events "observer").isSome ||
    d.parent? n == some d.root

/-- The answer to `Query.eventHandlers`. -/
def eventHandlers (d : Document) (excludeModels : Bool) : List NodeId :=
  (d.descendants d.root).filter fun n =>
    (d.attribute? n Namespace.events "event").isSome && !d.inInstance n &&
      (!excludeModels || !d.hasAncestorNamed n Namespace.xforms "model") && d.hasKnownObserver n

/-- The answer to `Query.elementsNamed`. -/
def elementsNamed (d : Document) (name : QName) : List NodeId :=
  (d.descendants d.root).filter fun n =>
    d.isNamed n name.uri name.localName && !d.inInstance n

/-- The element handles the activation of a control. -/
def handlesActivation (d : Document) (n : NodeId) : Bool :=
  (d.attribute? n Namespace.events "event").any fun events =>
    (Text.words events).contains "DOMActivate"

/-- The triggers with an id in the subtree around an action: under the parent of the nearest
handler of an activation that is the action or encloses it. -/
def triggersAround (d : Document) (action : NodeId) : List NodeId :=
  match ((action :: d.ancestors action).find? d.handlesActivation).bind d.parent? with
  | none => []
  | some parent =>
    (d.descendants parent).filter fun n =>
      d.isNamed n Namespace.xforms "trigger" && (d.staticId? n).isSome

/-- The answer to `Query.activationTriggers`, each trigger once. -/
def activationTriggers (d : Document) (name : QName) : List NodeId :=
  ((d.elementsNamed name).flatMap d.triggersAround).eraseDups

/-- The nodes that answer a query. -/
def select (d : Document) : Query → List NodeId
  | .eventHandlers excludeModels => d.eventHandlers excludeModels
  | .elementsNamed name => d.elementsNamed name
  | .activationTriggers name => d.activationTriggers name

end Document

end FormEngine
