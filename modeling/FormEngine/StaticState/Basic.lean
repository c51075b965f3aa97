import FormEngine.StaticState.Analysis
import FormEngine.StaticState.Parts
/-!
# Static states

A static state is a compiled form: everything about it that does not depend on a session. It is
built from a form document or restored from a token. Its analysis runs at most once with
success, and so does its serialization, after which the state keeps the token in place of the
document. Before it is serialized the document takes in what the state has beyond it: the XHTML
page and the path matchers.
-/

namespace FormEngine

/-- Where a token comes from. Only a token in a request can have been made up. -/
inductive TokenOrigin where
  | request
  | store
  deriving DecidableEq, Repr, Inhabited

/-- The form of a state that can be written out. -/
inductive FormSource where
  | document (d : Document)
  | encoded (token : String)
  deriving DecidableEq, Repr, Inhabited

structure StaticState where
  uuid : String
  metadata : DocumentMetadata
  properties : PropertyTable
  features : FeatureFlags
  password : Option String
  controls : Document
  models : List Document
  xhtml : Option Document
  pathMatchers : List PathMatcher
  components : ComponentRegistry
  constructionWarnings : List Warning
  source : FormSource
  analysis : Option Analysis := none
  deriving Repr, Inhabited

namespace StaticState

/-! ## Modes -/

/-- The form is served without scripts: the host allows it and the form asks for it. -/
def isNoscriptUnder (features : FeatureFlags) (properties : PropertyTable) : Bool :=
  features.noscript && (properties.boolean? Property.noscript).getD false &&
    (properties.boolean? Property.noscriptSupport).getD false

def isNoscript (s : StaticState) : Bool := isNoscriptUnder s.features s.properties

def isXPathAnalysis (s : StaticState) : Bool :=
  s.features.xpathAnalysis && (s.properties.boolean? Property.xpathAnalysis).getD false

/-- The client keeps the state of the form. -/
def isClientHandled (s : StaticState) : Bool := s.properties.isClientHandled

/-! ## Construction -/

/-- A state of the parts of a form. A supplied XHTML page takes the place of the embedded one,
but is kept only for forms without scripts. -/
def ofParts (uuid : String) (p : FormParts) (supplied : Option Document) (source : FormSource)
    (config : EngineConfig) : StaticState :=
  { uuid, metadata := p.metadata, properties := p.properties, features := config.features
    password := config.password, controls := p.controls, models := p.models
    xhtml :=
      match supplied with
      | none => p.embeddedXhtml
      | some page => if isNoscriptUnder config.features p.properties then some page else none
    pathMatchers := p.pathMatchers, components := p.components
    constructionWarnings := p.warnings, source }

/-- The state of a form document, with an XHTML page that the host may supply. -/
def ofDocument (uuid : String) (d : Document) (supplied : Option Document) (config : EngineConfig) :
    Except AnalysisError StaticState := do
  return ofParts uuid (← FormParts.ofDocument d config) supplied (.document d) config

/-- The state of a token. A token of a request has to be signed when there is a password. -/
def ofEncoded (uuid : String) (token : String) (origin : TokenOrigin) (config : EngineConfig) :
    Except AnalysisError StaticState := do
  let password := match origin with
    | .request => config.password
    | .store => none
  let d ← (Token.decode token password).mapError .token
  return ofParts uuid (← FormParts.ofDocument d config) none (.encoded token) config

/-! ## Analysis -/

def isAnalyzed (s : StaticState) : Bool := s.analysis.isSome

/-- The analysis runs unless it has run already, and the answer says whether it did. -/
def analyze (s : StaticState) : Except Stop (Bool × StaticState) :=
  match s.analysis with
  | some _ => .ok (false, s)
  | none => do
    let a ← Analysis.run s.controls s.models s.components
    return (true, { s with analysis := some a })

/-- The warnings of the construction and of the analysis. -/
def warnings (s : StaticState) : List Warning :=
  s.constructionWarnings ++ (s.analysis.map (·.warnings)).getD []

/-- The element of a control with its document, once the analysis has run. -/
def controlElement? (s : StaticState) (prefixedId : String) : Option (Document × NodeId) := do
  let a ← s.analysis
  let c ← a.controls.control? prefixedId
  let f : Form := { controls := s.controls, scopes := a.scopes }
  return (f.document c.element.tree, c.element.node)

/-! ## Serialization -/

def isSerialized (s : StaticState) : Bool :=
  match s.source with
  | .document _ => false
  | .encoded _ => true

/-- The XHTML page is appended to a document that has none. -/
def foldXhtml (page : Option Document) (d : Document) : Document :=
  match page with
  | none => d
  | some page =>
    if (d.firstChildNamed? d.root Namespace.xhtml "html").isSome then d
    else page.copySubtree page.root d d.root

/-- Path matchers are appended to a document that has none. -/
def foldMatchers (matchers : List PathMatcher) (d : Document) : Document :=
  if matchers.isEmpty || (d.firstChildNamed? d.root "" "matchers").isSome then d
  else
    let list := d.size
    matchers.foldl (fun d m => m.appendTo d list) (d.appendElement d.root (.plain "matchers") [])

/-- The password that signs the token of the state. -/
def signingPassword (s : StaticState) : Option String :=
  if s.isClientHandled then s.password else none

/-- The token of a state that is still a document. -/
def tokenOf (s : StaticState) (d : Document) : String :=
  Token.encode (foldMatchers s.pathMatchers (foldXhtml s.xhtml d)) s.signingPassword

/-- The token of the state. -/
def token (s : StaticState) : String :=
  match s.source with
  | .encoded token => token
  | .document d => s.tokenOf d

/-- The state with its token in place of its document. -/
def serialize (s : StaticState) : StaticState := { s with source := .encoded s.token }

end StaticState

end FormEngine
