import FormEngine.Event.Index
import FormEngine.Report.Control
/-!
# Reports on event handlers
-/

namespace FormEngine

open Json

def HandlerLocation.report : HandlerLocation → Value
  | .form e => e.report
  | .model m n => .array [.text "model", .text m, .nat n]

def Phase.name : Phase → String
  | .default => "default"
  | .capture => "capture"
  | .target => "target"

def EventHandler.report (h : EventHandler) : Value :=
  .record [("prefix", .text h.scopePrefix), ("staticId", Report.text? h.staticId),
    ("prefixedId", Report.text? h.prefixedId?), ("name", h.name.toJson),
    ("location", h.location.report), ("observersStaticIds", Report.texts h.observersStaticIds),
    ("ancestorObserverStaticId", Report.text? h.ancestorObserverStaticId),
    ("isAllEvents", .bool h.isAllEvents), ("eventNames", Report.texts h.eventNames),
    ("targetIds", Report.texts h.targetIds), ("phase", .text h.phase.name),
    ("propagate", .text (if h.propagates then "continue" else "stop")),
    ("defaultAction", .text (if h.performsDefault then "perform" else "cancel"))]

def EventIndex.report (x : EventIndex) : Value :=
  .record [("handlers", .list EventHandler.report x.handlers.toList),
    ("observers", .list (fun e => .array [.text e.1, Report.nats e.2]) x.byObserver),
    ("ancestorObservers", .record (x.ancestorObservers.map fun e => (e.1, .text e.2))),
    ("eventNames", Report.textSet x.eventNames), ("keyHandlers", Report.nats x.keyHandlers)]

end FormEngine
