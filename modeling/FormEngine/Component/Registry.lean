import FormEngine.Diagnostics
import FormEngine.Document.Copy
import FormEngine.Document.Walk
/-!
# Component bindings

A binding gives an element name a template. Its selector is `prefix|name`, the prefix standing
for the namespace that the document's table has for it; a selector without a bar uses the
empty prefix. The first binding for a name holds, and later ones are passed over.
-/

namespace FormEngine

/-- A binding of an element name. The template is dropped when no instance is still to come. -/
structure Binding where
  element : QName
  bindingId : Option String
  template : Option Document
  deriving Repr, Inhabited

/-- The bindings of a form, no two for the same name. -/
structure ComponentRegistry where
  bindings : List Binding := []
  deriving Repr, Inhabited

namespace ComponentRegistry

def binding? (r : ComponentRegistry) (name : QName) : Option Binding :=
  r.bindings.find? fun b => b.element.same name

/-- Elements of this name are component instances. -/
def isComponent (r : ComponentRegistry) (name : QName) : Bool :=
  (r.binding? name).isSome

/-- Some binding is for a name of this namespace. -/
def isComponentNamespace (r : ComponentRegistry) (uri : String) : Bool :=
  r.bindings.any fun b => b.element.uri == uri

/-- A binding joins the registry unless its name is bound already. -/
def register (r : ComponentRegistry) (b : Binding) : ComponentRegistry :=
  if r.isComponent b.element then r else { bindings := r.bindings ++ [b] }

/-- The templates are dropped; the names stay bound. -/
def freeTemplates (r : ComponentRegistry) : ComponentRegistry :=
  { bindings := r.bindings.map fun b => { b with template := none } }

/-- The number of nodes in all templates. -/
def templateSize (r : ComponentRegistry) : Nat :=
  r.bindings.foldr (fun b n => (b.template.map (·.size)).getD 0 + n) 0

/-- A selector cut at its first bar; without a bar the prefix is empty. -/
def splitSelector (selector : String) : String × String :=
  let cs := selector.toList
  match cs.dropWhile (· != '|') with
  | [] => ("", selector)
  | _ :: rest => (String.ofList (cs.takeWhile (· != '|')), String.ofList rest)

/-- The name that a selector selects. -/
def resolveSelector (d : Document) (selector : String) : Except AnalysisError QName :=
  let (nsPrefix, localName) := splitSelector selector
  if localName.isEmpty then .error (.unresolvedComponent selector "empty element selector")
  else
    match d.namespace? nsPrefix with
    | none => .error (.unresolvedComponent selector "selector prefix is not declared")
    | some uri => .ok { nsPrefix, uri, localName }

/-- The binding of an `xbl:binding` element. -/
def bindingOfElement (d : Document) (n : NodeId) : Except AnalysisError Binding := do
  let bindingId := d.staticId? n
  match d.attr? n "element" with
  | none =>
    throw (.unresolvedComponent (bindingId.getD "xbl:binding") "binding has no element selector")
  | some selector =>
    let element ← resolveSelector d selector
    match d.firstChildNamed? n Namespace.xbl "template" with
    | none => throw (.unresolvedComponent selector "binding has no template")
    | some template => return { element, bindingId, template := some (d.subtreeDocument template) }

/-- The `xbl:binding` elements outside instances, in document order. -/
def bindingElements (d : Document) : List NodeId :=
  (d.descendants d.root).filter fun n =>
    d.isNamed n Namespace.xbl "binding" && !d.hasAncestorNamed n Namespace.xforms "instance"

/-- The bindings of a document. -/
def ofDocument (d : Document) : Except AnalysisError ComponentRegistry :=
  (bindingElements d).foldlM (fun r n => do return r.register (← bindingOfElement d n)) {}

end ComponentRegistry

end FormEngine
