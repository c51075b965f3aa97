import FormEngine.Control.Tree
import FormEngine.Query
/-!
# Offline support and scripts

A form supports work without a connection when it has an `xxf:offline` action anywhere. Then
the triggers beside the handlers of actions that matter offline get a class, and the triggers
of insertions are listed. Scripts are collected by prefixed id with their bodies.
-/

namespace FormEngine

/-- The actions that matter offline and the classes of their triggers. -/
def offlineClasses : List (QName × String) :=
  [ ({ uri := Namespace.xxforms, localName := "online" }, "xxforms-online"),
    ({ uri := Namespace.xxforms, localName := "offline" }, "xxforms-offline"),
    ({ uri := Namespace.xxforms, localName := "offline-save" }, "xxforms-offline-save"),
    ({ uri := Namespace.xforms, localName := "insert" }, "xxforms-offline-insert"),
    ({ uri := Namespace.xforms, localName := "delete" }, "xxforms-offline-delete") ]

namespace ControlTree

/-- A document has an action that takes the form offline. -/
def goesOffline (d : Document) : Bool :=
  !(d.select (.elementsNamed { uri := Namespace.xxforms, localName := "offline" })).isEmpty

/-- A trigger gets the class of an action beside it. -/
def tagTrigger (f : Form) (action : QName) (cls : String) (t : ControlTree) (e : ElementRef) :
    ControlTree :=
  match f.prefixedId? e with
  | none => t
  | some prefixedId =>
    match t.id? prefixedId with
    | none => t
    | some c =>
      let t := t.modify c fun control => control.addClass cls
      if action.localName = "insert" && !t.offlineInsertTriggerIds.contains prefixedId then
        { t with offlineInsertTriggerIds := t.offlineInsertTriggerIds ++ [prefixedId] }
      else t

/-- The triggers of one document get their classes. -/
def tagTriggers (f : Form) (t : ControlTree) (tree : TreeRef) : ControlTree :=
  offlineClasses.foldl
    (fun t (action, cls) =>
      ((f.document tree).select (.activationTriggers action)).foldl
        (fun t n => tagTrigger f action cls t ⟨tree, n⟩) t)
    t

/-- Offline support is detected in the form and its models. -/
def classifyOffline (t : ControlTree) (f : Form) (models : List Document) : ControlTree :=
  if (models ++ f.trees.map f.document).any goesOffline then
    f.trees.foldl (tagTriggers f) { t with hasOfflineSupport := true }
  else { t with hasOfflineSupport := false }

/-- The scripts of a document are collected; `prefixOf` gives the prefix of a node's scope. -/
def addScripts (t : ControlTree) (d : Document) (prefixOf : NodeId → String) : ControlTree :=
  (d.select (.elementsNamed { uri := Namespace.xxforms, localName := "script" })).foldl
    (fun t n =>
      match d.staticId? n with
      | none => t
      | some id => { t with scripts := Json.assign (prefixOf n ++ id) (d.textContent n) t.scripts })
    t

end ControlTree

end FormEngine
