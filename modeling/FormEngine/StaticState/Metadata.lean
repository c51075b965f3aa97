import FormEngine.Diagnostics
import FormEngine.Document.Walk
import FormEngine.Text.Numeral
/-!
# Metadata of a form

What the host records on the root of a form document about the request that delivered it.
-/

namespace FormEngine

inductive DeploymentType where
  | plain
  | separate
  | integrated
  deriving DecidableEq, Repr, Inhabited

namespace DeploymentType

def name : DeploymentType → String
  | .plain => "plain"
  | .separate => "separate"
  | .integrated => "integrated"

def ofName? (s : String) : Option DeploymentType :=
  [plain, separate, integrated].find? fun t => t.name == s

end DeploymentType

/-- A place in a source file. -/
structure SourceLocation where
  systemId : String
  line : Nat
  column : Nat
  deriving DecidableEq, Repr, Inhabited

structure DocumentMetadata where
  deploymentType : DeploymentType := .plain
  contextPath : Option String := none
  baseUri : Option String := none
  containerType : Option String := none
  containerNamespace : Option String := none
  location : Option SourceLocation := none
  deriving DecidableEq, Repr, Inhabited

namespace DocumentMetadata

/-- The location on the root, when all three parts are there and are numbers. -/
def locationOf? (d : Document) : Option SourceLocation := do
  let systemId ← d.attr? d.root "system-id"
  let line ← (d.attr? d.root "line").bind Text.readNat32?
  let column ← (d.attr? d.root "column").bind Text.readNat32?
  return { systemId, line, column }

/-- The deployment on the root, plain unless it says otherwise. -/
def deploymentOf (d : Document) : Except AnalysisError DeploymentType :=
  match d.attr? d.root "deployment" with
  | none => .ok .plain
  | some value =>
    match DeploymentType.ofName? value with
    | some t => .ok t
    | none => .error (.malformedMarkup ("unknown deployment type: " ++ value))

/-- The metadata on the root of a document. -/
def ofDocument (d : Document) : Except AnalysisError DocumentMetadata := do
  return { deploymentType := ← deploymentOf d
           contextPath := d.attr? d.root "context-path"
           baseUri := (d.attribute? d.root Namespace.xml "base").or (d.attr? d.root "base")
           containerType := d.attr? d.root "container-type"
           containerNamespace := d.attr? d.root "container-namespace"
           location := locationOf? d }

end DocumentMetadata

end FormEngine
