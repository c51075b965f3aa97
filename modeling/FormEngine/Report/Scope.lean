import FormEngine.Model
import FormEngine.Report.Basic
/-!
# Reports on scopes and models
-/

namespace FormEngine

open Json

def Scope.report (s : Scope) : Value :=
  .record [("id", .nat s.id), ("scopeId", .text s.scopeId), ("fullPrefix", .text s.fullPrefix),
    ("parent", .ofOption .nat s.parent)]

/-- The fields of a report on a shadow tree. -/
def ShadowTree.reportFields (t : ShadowTree) : List (String × Value) :=
  [("boundPrefixedId", .text t.boundPrefixedId), ("innerScope", .nat t.innerScope),
    ("outerScope", .nat t.outerScope), ("document", t.document.report),
    ("outer", Report.natSet t.outerNodes)]

def ShadowTree.report (t : ShadowTree) : Value := .record t.reportFields

def ScopeTree.report (t : ScopeTree) : Value :=
  .record [("scopes", .list Scope.report t.scopes),
    ("shadowTrees", .list (fun e => .array [.text e.1, ShadowTree.report e.2]) t.shadowTrees)]

mutual

/-- A bind with the binds nested in it. -/
def Bind.report : Bind → Value
  | .mk id reference type calculate relevant readonly required constraint children =>
    .record [("id", Report.text? id), ("reference", Report.text? reference),
      ("type", Report.text? type), ("calculate", Report.text? calculate),
      ("relevant", Report.text? relevant), ("readonly", Report.text? readonly),
      ("required", Report.text? required), ("constraint", Report.text? constraint),
      ("children", .array (Bind.reports children))]

@[inherit_doc Bind.report]
def Bind.reports : List Bind → List Value
  | [] => []
  | b :: rest => b.report :: Bind.reports rest

end

def Model.report (m : Model) : Value :=
  .record [("prefixedId", .text m.prefixedId), ("staticId", .text m.staticId),
    ("scope", .nat m.scope), ("instanceStaticIds", Report.texts m.instanceStaticIds),
    ("defaultInstanceStaticId", Report.text? m.defaultInstanceStaticId?),
    ("defaultInstancePrefixedId", Report.text? m.defaultInstancePrefixedId),
    ("binds", .array (Bind.reports m.binds)), ("instanceNodes", Report.nats m.instanceNodes)]

def ModelIndex.report (x : ModelIndex) : Value := .list Model.report x.models

end FormEngine
