import FormEngine.Report.Event
import FormEngine.Report.Scope
import FormEngine.StaticState.Basic
/-!
# Reports on static states

The report on a static state comes in sections. Those that show the analysis are `null` before
the analysis has run.
-/

namespace FormEngine

open Json

def PropertyTable.report (t : PropertyTable) : Value :=
  .record [("nonDefault", .record (t.nonDefault.map fun e => (e.1, e.2.toJson))),
    ("externalEvents", Report.textSet t.externalEvents), ("client", .bool t.isClientHandled)]

def SourceLocation.report (l : SourceLocation) : Value :=
  .record [("systemId", .text l.systemId), ("line", .nat l.line), ("column", .nat l.column)]

def DocumentMetadata.report (m : DocumentMetadata) : Value :=
  .record [("deploymentType", .text m.deploymentType.name),
    ("contextPath", Report.text? m.contextPath), ("baseUri", Report.text? m.baseUri),
    ("containerType", Report.text? m.containerType),
    ("containerNamespace", Report.text? m.containerNamespace),
    ("location", .ofOption SourceLocation.report m.location)]

namespace StaticState

/-- The section on the state itself. -/
def report (s : StaticState) : Value :=
  .record [("metadata", s.metadata.report), ("properties", s.properties.report),
    ("noscript", .bool s.isNoscript), ("xpathAnalysis", .bool s.isXPathAnalysis),
    ("client", .bool s.isClientHandled),
    ("pathMatchers", .list PathMatcher.toJson s.pathMatchers),
    ("hasXhtml", .bool s.xhtml.isSome), ("models", .nat s.models.length)]

/-- A section by name; `null` for a name that stands for none. -/
def section? (s : StaticState) (name : String) : Value :=
  match name with
  | "state" => s.report
  | "warnings" => .list Warning.report s.warnings
  | "controlsDocument" => s.controls.report
  | "modelDocuments" => .list Document.report s.models
  | "xhtmlDocument" => .ofOption Document.report s.xhtml
  | "controls" => .ofOption (fun a => a.controls.report) s.analysis
  | "events" => .ofOption (fun a => a.events.report) s.analysis
  | "models" => .ofOption (fun a => a.models.report) s.analysis
  | "scopes" => .ofOption (fun a => a.scopes.report) s.analysis
  | _ => .null

end StaticState

end FormEngine
