import FormEngine.Component.Registry
import FormEngine.Config.Basic
import FormEngine.Model
import FormEngine.Property.Table
import FormEngine.StaticState.Metadata
/-!
# The parts of a form document

A form document is split before it is analysed: metadata and properties, the bindings of
components, the controls, the models and the XHTML page. The controls document has under its
root a copy of every child of the form's root that is in a namespace and is neither a model,
nor XHTML, nor of XBL. Models nested in the controls are copied out as well.
-/

namespace FormEngine

namespace Document

/-- The models directly under the root. -/
def topLevelModels (d : Document) : List NodeId :=
  (d.childElements d.root).filter fun c => d.isNamed c Namespace.xforms "model"

/-- The properties that a form declares. -/
def declaredProperties (d : Document) : DeclaredProperties :=
  { global :=
      match d.firstChildNamed? d.root "" "properties" with
      | none => []
      | some p => (d.attributes p).map fun a => (a.name.localName, a.value)
    model :=
      d.topLevelModels.flatMap fun m =>
        ((d.attributes m).filter fun a => a.name.uri == Namespace.xxforms).map fun a =>
          (a.name.localName, a.value) }

/-- The name is one whose elements at top level are control markup. -/
def isControlMarkup (n : QName) : Bool :=
  !n.uri.isEmpty && n.uri != Namespace.xbl && !n.is Namespace.xforms "model" &&
    !n.is Namespace.xhtml "html"

/-- The control markup of a form as a document of its own. -/
def controlsDocument (d : Document) : Document :=
  let top := d.namespaces.foldl (fun c e => c.declareNamespace e.1 e.2) (ofRoot (.plain "controls"))
  ((d.childElements d.root).filter fun c => (d.name? c).any isControlMarkup).foldl
    (fun dest c => d.copySubtree c dest dest.root) top

/-- The path matchers that a form records, if it records any. -/
def recordedMatchers? (d : Document) : Option (List PathMatcher) :=
  (d.firstChildNamed? d.root "" "matchers").map fun m =>
    ((d.childElements m).filter fun c => d.isNamed c "" "matcher").filterMap (PathMatcher.ofElement? d)

/-- The XHTML page in a form. -/
def xhtmlPage? (d : Document) : Option Document :=
  (d.firstChildNamed? d.root Namespace.xhtml "html").map d.subtreeDocument

end Document

/-- A form document split into its parts. -/
structure FormParts where
  metadata : DocumentMetadata
  properties : PropertyTable
  components : ComponentRegistry
  controls : Document
  models : List Document
  /-- The XHTML page in the form itself. -/
  embeddedXhtml : Option Document
  pathMatchers : List PathMatcher
  warnings : List Warning
  deriving Repr, Inhabited

/-- The parts of a form document under a configuration. -/
def FormParts.ofDocument (d : Document) (config : EngineConfig) : Except AnalysisError FormParts := do
  let metadata ← DocumentMetadata.ofDocument d
  let (warnings, properties) := PropertyTable.resolve d.declaredProperties config.globalProperties
  let properties ← properties
  let components ← ComponentRegistry.ofDocument d
  let controls := d.controlsDocument
  return { metadata, properties, components, controls
           models := d.topLevelModels.map d.subtreeDocument ++ controls.nestedModels controls.root
           embeddedXhtml := d.xhtmlPage?
           pathMatchers := d.recordedMatchers?.getD config.pathMatchers
           warnings }

end FormEngine
