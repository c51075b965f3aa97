import FormEngine.Diagnostics
import FormEngine.Markup.Token
/-!
# Documents from markup

The first element is the root, and everything before it and after its end is left out. Names
are resolved against the namespace declarations around them; the declarations themselves are
no attributes, and the namespace table of the document records only the prefixes that names
use. Text that holds nothing but blanks is dropped.

An end tag closes the innermost open element of its name with everything inside it, and one
that matches no open element is passed over.
-/

namespace FormEngine.Markup

/-- A name cut into prefix and local name. A name has a prefix only if it has exactly one
colon, which stands neither first nor last. -/
def splitName (name : String) : String × String :=
  let cs := name.toList
  let before := cs.takeWhile (· != ':')
  let after := (cs.dropWhile (· != ':')).tail
  if before.isEmpty || after.isEmpty || after.contains ':' then ("", name)
  else (String.ofList before, String.ofList after)

/-- The namespaces of the prefixes in scope, innermost declarations first. The empty prefix
stands for the default namespace. -/
abbrev Bindings := List (String × String)

/-- The bindings around the root. -/
def Bindings.initial : Bindings := [("xml", Namespace.xml), ("xmlns", Namespace.xmlns)]

/-- The name that a raw name of an element denotes. -/
def Bindings.elementName (b : Bindings) (raw : String) : QName :=
  let (nsPrefix, localName) := splitName raw
  { nsPrefix, uri := (b.lookup nsPrefix).getD "", localName }

/-- The name that a raw name of an attribute denotes; without a prefix it has no namespace. -/
def Bindings.attributeName (b : Bindings) (raw : String) : QName :=
  let (nsPrefix, localName) := splitName raw
  { nsPrefix, uri := if nsPrefix.isEmpty then "" else (b.lookup nsPrefix).getD "", localName }

/-- Attributes of one tag without those whose raw name is the local name of an earlier one.
`before` are the local names of the attributes kept so far. -/
def dropRepeated (before : List String) : List (String × String) → List (String × String)
  | [] => []
  | (raw, value) :: rest =>
    if raw ∈ before then dropRepeated before rest
    else (raw, value) :: dropRepeated ((splitName raw).2 :: before) rest

/-- The attribute has the form of a namespace declaration. -/
def isDeclaration (raw : String) : Bool :=
  (splitName raw).1 == "xmlns" || (splitName raw).2 == "xmlns"

/-- The prefix and namespace that an attribute declares. The prefixes `xml` and `xmlns` cannot
be declared, nor can the namespace of declarations. -/
def declared? : String × String → Option (String × String)
  | (raw, value) =>
    if value = Namespace.xmlns then none
    else
      match splitName raw with
      | ("xmlns", localName) =>
        if localName = "xml" ∨ localName = "xmlns" then none else some (localName, value)
      | ("", "xmlns") => some ("", value)
      | _ => none

/-- Attributes without the prefixed ones whose name an earlier prefixed one has. -/
def dropSameNamed (before : List QName) : List Attribute → List Attribute
  | [] => []
  | a :: rest =>
    if a.name.nsPrefix.isEmpty then a :: dropSameNamed before rest
    else if before.any a.name.same then dropSameNamed before rest
    else a :: dropSameNamed (a.name :: before) rest

/-- A tag with its names resolved, and the bindings inside its element. -/
structure ResolvedTag where
  name : QName
  attributes : List Attribute
  bindings : Bindings
  deriving Repr, Inhabited

/-- The names of a start tag are resolved. -/
def resolveTag (around : Bindings) (raw : String) (attributes : List (String × String)) : ResolvedTag :=
  let attributes := dropRepeated [] attributes
  let bindings : Bindings := attributes.filterMap declared? ++ around
  let plain := attributes.filter fun a => !isDeclaration a.1
  { name := bindings.elementName raw
    attributes := dropSameNamed [] (plain.map fun a => ⟨bindings.attributeName a.1, a.2⟩)
    bindings }

/-- An element that is still open. -/
structure OpenElement where
  node : NodeId
  name : QName
  bindings : Bindings
  deriving Repr, Inhabited

/-- A document in the making. -/
structure Builder where
  document : Document
  /-- The open elements, innermost first. -/
  path : List OpenElement
  /-- Text that waits for its end, newest character first. -/
  pending : List Char := []
  deriving Repr, Inhabited

/-- The prefix of a name in a namespace is recorded. -/
def declareName (d : Document) (name : QName) : Document :=
  if name.nsPrefix.isEmpty || name.uri.isEmpty then d else d.declareNamespace name.nsPrefix name.uri

/-- An attribute is recorded and set. -/
def setAttribute (n : NodeId) (d : Document) (a : Attribute) : Document :=
  (declareName d a.name).setAttribute n a.name a.value

namespace Builder

/-- The waiting text becomes a node unless it is blank. -/
def flush (b : Builder) : Builder :=
  match b.path with
  | [] => b
  | top :: _ =>
    let text := b.pending.reverse
    { b with
      pending := []
      document := if text.all Text.isBlank then b.document
        else b.document.appendText top.node (String.ofList text) }

/-- A document with a root that a start tag opens. -/
def ofRoot (raw : String) (attributes : List (String × String)) (selfClosing : Bool) : Builder :=
  let tag := resolveTag .initial raw attributes
  let document := tag.attributes.foldl (setAttribute 0) (declareName (.ofRoot tag.name) tag.name)
  { document, path := if selfClosing then [] else [⟨0, tag.name, tag.bindings⟩] }

/-- An element is opened in the innermost open one. -/
def openElement (b : Builder) (raw : String) (attributes : List (String × String))
    (selfClosing : Bool) : Builder :=
  match b.path with
  | [] => b
  | top :: _ =>
    let b := b.flush
    let tag := resolveTag top.bindings raw attributes
    let n := b.document.size
    let document := (declareName b.document tag.name).appendElement top.node tag.name []
    { b with
      document := tag.attributes.foldl (setAttribute n) document
      path := if selfClosing then b.path else ⟨n, tag.name, tag.bindings⟩ :: b.path }

/-- The innermost element of a name is closed with everything inside it. -/
def closeElement (b : Builder) (raw : String) : Builder :=
  match b.path with
  | [] => b
  | top :: _ =>
    let name := top.bindings.elementName raw
    match b.path.dropWhile fun e => !e.name.same name with
    | [] => b
    | _ :: outer => { b.flush with path := outer }

/-- The effect of a token. -/
def step (b : Builder) : Token → Builder
  | .openTag raw attributes selfClosing => b.openElement raw attributes selfClosing
  | .closeTag raw => b.closeElement raw
  | .closeInnermost => { b.flush with path := b.path.tail }
  | .text cs => { b with pending := cs.reverse ++ b.pending }
  | .separator => b.flush

/-- The effects of tokens up to the end of the root. -/
def run (b : Builder) : List Token → Builder
  | [] => b.flush
  | t :: rest => if b.path.isEmpty then b else (b.step t).run rest

end Builder

/-- The document of a token list. -/
def documentOfTokens : List Token → Except AnalysisError Document
  | [] => .error (.malformedMarkup "document has no root element")
  | .openTag raw attributes selfClosing :: rest =>
    .ok ((Builder.ofRoot raw attributes selfClosing).run rest).document
  | _ :: rest => documentOfTokens rest

/-- The document of a markup text. -/
def parse (source : String) : Except AnalysisError Document :=
  documentOfTokens (tokens source)

end FormEngine.Markup
