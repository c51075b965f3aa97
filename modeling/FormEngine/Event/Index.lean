import FormEngine.Control.Tree
import FormEngine.Event.Handler
/-!
# The index of event handlers

Handlers are numbered in the order of registration and listed under the prefixed id of every
observer. A handler without observers is not registered. The index also keeps the names of all
events that are handled, the handlers of key presses, and for every id in a handler the
observer around it.
-/

namespace FormEngine

structure EventIndex where
  handlers : Array EventHandler := #[]
  /-- The handlers of each observer, observers in order of their first handler. -/
  byObserver : List (String × List Nat) := []
  /-- The observer around each element of a handler, both by prefixed id. -/
  ancestorObservers : List (String × String) := []
  eventNames : List String := []
  keyHandlers : List Nat := []
  deriving Repr, Inhabited

namespace EventIndex

def size (x : EventIndex) : Nat := x.handlers.size

/-- The numbers of the handlers of an observer in order of registration. -/
def indicesFor (x : EventIndex) (observer : String) : List Nat :=
  (x.byObserver.lookup observer).getD []

def handlersFor (x : EventIndex) (observer : String) : List EventHandler :=
  (x.indicesFor observer).filterMap fun i => x.handlers[i]?

def observers (x : EventIndex) : List String := x.byObserver.map (·.1)

/-- Some handler of the observer reacts to the event. -/
def observerHandles (x : EventIndex) (observer event : String) : Bool :=
  (x.handlersFor observer).any fun h => h.handles event

/-- Some handler lists the event or, on request, reacts to every event. -/
def hasHandlerFor (x : EventIndex) (event : String) (includeAll : Bool) : Bool :=
  (includeAll && x.eventNames.contains Event.all) || x.eventNames.contains event

def ancestorObserver? (x : EventIndex) (prefixedId : String) : Option String :=
  x.ancestorObservers.lookup prefixedId

/-- An observer id with the prefix of its scope; the whole form has none. -/
def observerId (scopePrefix id : String) : String :=
  if id = Event.documentObserver then id else scopePrefix ++ id

/-- A name joins a list of names unless it is there. -/
def addName (names : List String) (name : String) : List String :=
  if names.contains name then names else names ++ [name]

/-- The observer around a handler is recorded for the ids in the handler. -/
def recordAncestor (x : EventIndex) (h : EventHandler) (subtreeIds : List String) : EventIndex :=
  match h.ancestorObserverStaticId with
  | none => x
  | some ancestor =>
    let observer := observerId h.scopePrefix ancestor
    { x with
      ancestorObservers :=
        subtreeIds.foldl (fun m id => Json.assign (h.scopePrefix ++ id) observer m)
          x.ancestorObservers }

/-- The events of the handler with number `i` are recorded. -/
def recordEvents (x : EventIndex) (i : Nat) (h : EventHandler) : EventIndex :=
  if h.isAllEvents then { x with eventNames := addName x.eventNames Event.all }
  else
    h.eventNames.foldl
      (fun x name =>
        { x with
          eventNames := addName x.eventNames name
          keyHandlers :=
            if name = Event.keypress ∧ x.keyHandlers.getLast? ≠ some i then x.keyHandlers ++ [i]
            else x.keyHandlers })
      x

/-- A handler is registered under its observers, which resolve under `observersPrefix`. -/
def register (x : EventIndex) (h : EventHandler) (observersPrefix : String)
    (subtreeIds : List String) : EventIndex :=
  if h.observersStaticIds.isEmpty then x
  else
    let i := x.size
    let byObserver :=
      h.observersStaticIds.foldl (fun m o => pushUnder (observerId observersPrefix o) i m) x.byObserver
    let x := ({ x with byObserver }.recordAncestor h subtreeIds).recordEvents i h
    { x with handlers := x.handlers.push h }

end EventIndex

end FormEngine
