import FormEngine.Control.Element
/-!
# Event handlers

A handler is an action element with `ev:event`. It listens on its observers, which `ev:observer`
names or else its parent is, for the events that it lists or, with `#all`, for every event. The
pseudo id `#document` stands for the whole form.
-/

namespace FormEngine

namespace Event

/-- The observer that stands for the whole form. -/
def documentObserver : String := "#document"

/-- The name that stands for every event. -/
def all : String := "#all"

def keypress : String := "keypress"

end Event

/-- The names of actions. -/
def QName.isAction (n : QName) : Bool :=
  (n.uri == Namespace.xforms &&
      ["action", "dispatch", "rebuild", "recalculate", "revalidate", "refresh", "setfocus", "load",
        "setvalue", "send", "reset", "message", "toggle", "insert", "delete", "setindex"].contains
        n.localName) ||
    (n.uri == Namespace.xxforms &&
      ["script", "show", "hide", "invalidate-instance", "invalidate-instances", "online", "offline",
        "offline-save", "join-submissions"].contains n.localName)

inductive Phase where
  | default
  | capture
  | target
  deriving DecidableEq, Repr, Inhabited

/-- Where a handler stands. -/
inductive HandlerLocation where
  | form (e : ElementRef)
  | model (prefixedId : String) (node : NodeId)
  deriving DecidableEq, Repr, Inhabited

structure EventHandler where
  /-- The prefix of the scope in which the handler resolves. -/
  scopePrefix : String
  staticId : Option String
  name : QName
  location : HandlerLocation
  observersStaticIds : List String
  /-- The nearest element around the handler that can observe events. -/
  ancestorObserverStaticId : Option String
  isAllEvents : Bool
  /-- The events it lists, each once. -/
  eventNames : List String
  targetIds : List String
  phase : Phase := .default
  /-- The event goes on to further handlers. -/
  propagates : Bool := true
  /-- The default action of the event is performed. -/
  performsDefault : Bool := true
  deriving DecidableEq, Repr, Inhabited

namespace EventHandler

/-- The words of an attribute for events. -/
def eventWords (d : Document) (n : NodeId) (localName : String) : List String :=
  Text.words ((d.attribute? n Namespace.events localName).getD "")

/-- The handler at an element. -/
def ofElement (d : Document) (n : NodeId) (location : HandlerLocation) (scopePrefix : String)
    (parentStaticId ancestorObserver : Option String) : EventHandler :=
  let eventNames := (eventWords d n "event").eraseDups
  { scopePrefix, staticId := d.staticId? n, name := (d.name? n).getD (.plain ""), location
    observersStaticIds :=
      if (d.attribute? n Namespace.events "observer").isSome then eventWords d n "observer"
      else parentStaticId.toList
    ancestorObserverStaticId := ancestorObserver
    isAllEvents := eventNames.contains Event.all
    eventNames
    targetIds := eventWords d n "target"
    phase :=
      match d.attribute? n Namespace.events "phase" with
      | some "capture" => .capture
      | some "target" => .target
      | _ => .default
    propagates := d.attribute? n Namespace.events "propagate" != some "stop"
    performsDefault := d.attribute? n Namespace.events "defaultAction" != some "cancel" }

def prefixedId? (h : EventHandler) : Option String := h.staticId.map fun id => h.scopePrefix ++ id

/-- The handler reacts to an event. -/
def handles (h : EventHandler) (event : String) : Bool :=
  h.isAllEvents || h.eventNames.contains event

end EventHandler

end FormEngine
