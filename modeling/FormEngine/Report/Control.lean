import FormEngine.Control.Tree
import FormEngine.Report.Basic
/-!
# Reports on controls
-/

namespace FormEngine

open Json

def ElementRef.report (e : ElementRef) : Value :=
  match e.tree with
  | .controls => .array [.text "controls", .nat e.node]
  | .shadow i => .array [.nat i, .nat e.node]

def Support.report (s : Support) : Value :=
  .record [("kind", .text s.kind.name), ("staticId", Report.text? s.staticId),
    ("element", s.element.report), ("isExternal", .bool s.isExternal),
    ("staticValue", Report.text? s.staticValue), ("hasStaticValue", .bool s.staticValue.isSome)]

def ControlKind.report : ControlKind → Value
  | .container => .record [("kind", .text "container")]
  | .leaf => .record [("kind", .text "leaf")]
  | .component => .record [("kind", .text "component")]
  | .variable name => .record [("kind", .text "variable"), ("name", .text name)]
  | .repetition nested => .record [("kind", .text "repeat"), ("nested", Report.nats nested)]
  | .attributeOf target name =>
    .record [("kind", .text "attribute"), ("forPrefixedId", .text target),
      ("attributeName", .text name)]

def Control.report (c : Control) : Value :=
  .record ([("id", .nat c.id), ("index", .nat c.position), ("prefixedId", .text c.prefixedId),
    ("staticId", .text c.staticId), ("name", c.name.toJson), ("element", c.element.report),
    ("scope", .nat c.scope), ("parent", .ofOption .nat c.parent), ("level", .nat c.level),
    ("kind", c.kind.report), ("isContainer", .bool c.isContainer), ("isRepeat", .bool c.isRepeat),
    ("hasNodeBinding", .bool c.hasNodeBinding), ("hasValue", .bool c.hasValue),
    ("classes", Report.texts c.classes), ("ancestorRepeat", .ofOption .nat c.ancestorRepeat),
    ("inScopeVariables", Report.texts c.inScopeVariables)] ++
    SupportKind.all.map fun k => (k.name, .ofOption Support.report (c.support? k)))

def ControlTree.report (t : ControlTree) : Value :=
  .record [("controls", .list Control.report t.controls.toList),
    ("byType", .record (t.byName.map fun e => (e.1, Report.nats e.2))),
    ("repeatChildren", .record (t.repeatChildren.map fun e => (e.1, Report.texts e.2))),
    ("repeatHierarchy", .text t.repeatHierarchy),
    ("attributeControls", .record (t.attributeControls.map fun e =>
      (e.1, .record (e.2.map fun f => (f.1, .nat f.2))))),
    ("hasOfflineSupport", .bool t.hasOfflineSupport),
    ("offlineInsertTriggerIds", Report.texts t.offlineInsertTriggerIds),
    ("scripts", .list (fun e => .array [.text e.1, .text e.2]) t.scripts),
    ("repeats", Report.texts (t.repeats.map (·.prefixedId))),
    ("len", .array [.nat t.size, .bool (t.size == 0)])]

end FormEngine
